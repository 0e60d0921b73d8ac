import DocPages.Build.Divergent
import DocPages.Proofs.Build.Operations
import Mathlib.Data.List.Induction

namespace DocPages

variable [PropertyFamily]

/-- The slots after some writes in turn. -/
def Slots.ofWrites (written : List (Slot × Group)) : Slots :=
  written.foldl (fun slots (slot, group) => slots.fill slot group) {}

theorem Slots.forall_ofWrites {P : Group → Prop} {written : List (Slot × Group)}
    (h : ∀ write ∈ written, P write.2) :
    (∀ group ∈ (ofWrites written).before, P group) ∧
      (∀ group ∈ (ofWrites written).divergent, P group) ∧
        ∀ group ∈ (ofWrites written).after, P group := by
  induction written using List.reverseRecOn with
  | nil => exact ⟨nofun, nofun, nofun⟩
  | append_singleton rest write ih =>
      rw [List.forall_mem_append, List.forall_mem_singleton] at h
      obtain ⟨hbefore, hdivergent, hafter⟩ := ih h.1
      have hwrite : ∀ group ∈ some write.2, P group := by
        rintro group ⟨⟩
        exact h.2
      rw [ofWrites, List.foldl_append]
      obtain ⟨slot, group⟩ := write
      cases slot with
      | before => exact ⟨hwrite, hdivergent, hafter⟩
      | divergent => exact ⟨hbefore, hwrite, hafter⟩
      | after => exact ⟨hbefore, hdivergent, hwrite⟩

namespace InstanceCall

/-- The attributes of what a write builds for an instance. -/
def writeAttrs {β : Type} (own : Attrs) (write : SlotWrite β) : Attrs :=
  write.params.resolve own.toScope .main

/-- What remains of a call whose instance is known, or the lack of one. -/
def settle (required : Bool) :
    Except MissingDivergent Instance → Except MissingDivergent (Option Instance)
  | .ok variant => .ok (some variant)
  | .error missing => if required then .error missing else .ok none

/-- How a call ends, with what it hands back. -/
def conclude (required : Bool) : Except MissingDivergent Instance → Run (Option Instance)
  | .ok variant => do
      unless required do Run.observe (.divergentInstance (.ok ()))
      return some variant
  | .error missing => do
      if required then throw missing
      Run.observe (.divergentInstance (.error missing))
      return none

theorem settled_conclude (required : Bool) (result : Except MissingDivergent Instance) :
    Run.Settled (conclude required result) := by
  have hobserve (observation : Observation) (found : Option Instance) :
      Run.Settled (do Run.observe observation; return found) :=
    (Run.settled_observe observation).bind fun _ => Run.settled_pure found
  cases result with
  | ok variant =>
      cases required with
      | false => exact hobserve _ _
      | true => exact Run.settled_pure _
  | error missing =>
      cases required with
      | false => exact hobserve _ _
      | true => exact (Run.settled_throw missing).bind fun _ => hobserve _ _

theorem value_conclude (required : Bool) (result : Except MissingDivergent Instance)
    (tools : Toolkit) : (conclude required result).value tools = settle required result := by
  cases result <;> cases required <;> rfl

section settle

variable {required : Bool} {result : Except MissingDivergent Instance}

theorem settle_eq_some_iff {variant : Instance} :
    settle required result = .ok (some variant) ↔ result = .ok variant := by
  cases result with
  | ok found =>
      exact ⟨fun h => congrArg Except.ok (Option.some.inj (Except.ok.inj h)),
        fun h => congrArg (settle required) h⟩
  | error missing => cases required <;> exact ⟨nofun, nofun⟩

theorem settle_eq_none_iff :
    settle required result = .ok none ↔ required = false ∧ ∃ missing, result = .error missing := by
  cases result with
  | ok found => exact ⟨nofun, nofun⟩
  | error missing =>
      cases required with
      | false => exact ⟨fun _ => ⟨rfl, missing, rfl⟩, fun _ => rfl⟩
      | true => exact ⟨nofun, nofun⟩

theorem settle_eq_error_iff {missing : MissingDivergent} :
    settle required result = .error missing ↔ required = true ∧ result = .error missing := by
  cases result with
  | ok found => exact ⟨nofun, nofun⟩
  | error found =>
      cases required with
      | false => exact ⟨nofun, nofun⟩
      | true => exact ⟨fun h => ⟨rfl, congrArg _ (Except.error.inj h)⟩,
          fun h => congrArg (settle true) h.2⟩

end settle

variable (call : InstanceCall (Build Unit)) (tools : Toolkit) (group : Attrs)

/-- What the writes of a call build, in order. -/
def written : Except MissingDivergent (List (Slot × Group)) :=
  call.writes.mapM fun write =>
    (fun children => (write.slot, ⟨children, writeAttrs (call.attrs group) write⟩)) <$>
      write.body.nodes tools (writeAttrs (call.attrs group) write).toScope

/-- The instance that a call makes, if it makes one. -/
def made? : Except MissingDivergent (Option Instance) := do
  let written ← call.written tools group
  settle call.required ((Slots.ofWrites written).toInstance (call.attrs group))

theorem gather_eq : call.gather group =
    (fun written => (Slots.ofWrites written).toInstance (call.attrs group)) <$>
      call.writes.mapM fun write => (write.slot, ·) <$>
        Run.inScope (writeAttrs (call.attrs group) write) write.body := by
  have hfold := foldlM_map_result (fun slots (slot, content) => Slots.fill slots slot content)
    (fun write => (write.slot, ·) <$>
      Run.inScope (writeAttrs (call.attrs group) write) write.body) call.writes {}
  simp only [Functor.map_map] at hfold
  simp only [gather, bind_pure_comp]
  exact (congrArg _ hfold).trans (Functor.map_map _ _ _)

variable {call} (h : ∀ write ∈ call.writes, write.body.AppendOnly)
include h

theorem settled_gather : Run.Settled (call.gather group) := by
  rw [gather_eq]
  exact (Run.settled_mapM fun write hwrite =>
    (Build.settled_inScope (h write hwrite) _).map _).map _

theorem value_gather : (call.gather group).value tools =
    (fun written => (Slots.ofWrites written).toInstance (call.attrs group)) <$>
      call.written tools group := by
  rw [gather_eq, Run.value_map, Run.value_mapM fun write hwrite =>
    (Build.settled_inScope (h write hwrite) _).map _]
  congr 1
  apply mapM_congr
  intro write hwrite
  rw [Run.value_map, Build.value_inScope (h write hwrite), Functor.map_map]

theorem settled_instance? : Run.Settled (call.instance? group) :=
  (settled_gather group h).bind (settled_conclude call.required)

theorem value_instance? : (call.instance? group).value tools = call.made? tools group := by
  have hbind := Run.value_bind (call.gather group) (settled_conclude call.required) tools
  refine Eq.trans hbind ?_
  simp only [value_gather tools group h, value_conclude, bind_map_left, made?]

omit h

variable {calls : List (InstanceCall (Build Unit))}

theorem settled_instances
    (h : ∀ call ∈ calls, ∀ write ∈ call.writes, write.body.AppendOnly) :
    Run.Settled (instances group calls) := by
  induction calls with
  | nil => exact Run.settled_pure []
  | cons call rest ih =>
      rw [List.forall_mem_cons] at h
      exact (settled_instance? group h.1).bind fun _ =>
        (ih h.2).bind fun _ => Run.settled_pure _

theorem value_instances
    (h : ∀ call ∈ calls, ∀ write ∈ call.writes, write.body.AppendOnly) :
    (instances group calls).value tools =
      List.flatMap Option.toList <$> calls.mapM fun call => call.made? tools group := by
  induction calls with
  | nil => rfl
  | cons call rest ih =>
      rw [List.forall_mem_cons] at h
      have hrest := settled_instances group h.2
      rw [instances, Run.value_bind _ fun _ => hrest.bind fun _ => Run.settled_pure _,
        value_instance? tools group h.1, List.mapM_cons, map_bind]
      congr 1
      funext found
      rw [bind_pure_comp, Run.value_map, ih h.2, bind_pure_comp, Functor.map_map, Functor.map_map]
      rfl

end InstanceCall

namespace Build

variable {calls : List (InstanceCall (Build Unit))}

theorem appendOnly_divergentGroup (params : Params)
    (h : ∀ call ∈ calls, ∀ write ∈ call.writes, write.body.AppendOnly) :
    AppendOnly (divergentGroup params calls) :=
  (appendOnly_resolve params .main).bind fun attrs =>
    (appendOnly_lift (InstanceCall.settled_instances attrs h)).bind fun _ => appendOnly_push _

theorem nodes_divergentGroup (tools : Toolkit) (scope : Scope) (params : Params)
    (h : ∀ call ∈ calls, ∀ write ∈ call.writes, write.body.AppendOnly) :
    (divergentGroup params calls).nodes tools scope =
      (fun found =>
        let instances := found.flatMap Option.toList
        [.divergentGroup instances
          { params.resolve scope .main with platforms := platformsOf instances }]) <$>
        calls.mapM fun call => call.made? tools (params.resolve scope .main) := by
  have hsettled := InstanceCall.settled_instances (params.resolve scope .main) h
  rw [divergentGroup, nodes_resolve_bind, nodes_bind_push tools scope (appendOnly_lift hsettled),
    yield_lift hsettled, InstanceCall.value_instances tools _ h, Functor.map_map,
    Functor.map_map]
  rfl

end Build

end DocPages
