import DocPages.Build.Program
import DocPages.Proofs.Build.Composition

namespace DocPages

variable [PropertyFamily]

namespace InstanceCall

/-- A call whose slots are filled by programs, as a call whose slots are filled by actions. -/
def compiled (call : InstanceCall (List Step)) : InstanceCall (Build Unit) :=
  { call with writes := call.writes.map fun write => { write with body := Step.runAll write.body } }

theorem written_compiled (call : InstanceCall (List Step)) (tools : Toolkit) (group : Attrs) :
    call.compiled.written tools group = call.writes.mapM fun write =>
      (fun children => (write.slot, ⟨children, writeAttrs (call.attrs group) write⟩)) <$>
        (Step.runAll write.body).nodes tools (writeAttrs (call.attrs group) write).toScope :=
  List.mapM_map ..

end InstanceCall

namespace Step

/-- The programs that a step is given to run, in whatever scopes. -/
def bodies : Step → List (List Step)
  | header _ _ body | linkContent _ _ body | group _ body | buildGroup _ body _ | hint _ body
  | hintFor _ body | contentFor _ _ _ body => [body]
  | table _ body rows => body :: rows.map Prod.snd
  | block _ _ _ _ elements => elements.map Prod.snd
  | list _ _ bodies | listDefault bodies => bodies
  | divergentGroup _ calls => calls.flatMap fun call => call.writes.map SlotWrite.body
  | text .. | linkTable .. | link .. | resolvedLink .. | comment .. | platformText ..
  | platformTextAll .. | extend _ | signature _ | askSignature _ | askDefaults => []

/-- A statement about programs passes from the bodies of a step and from the steps after it to the
program that begins with the step. -/
structure Inductive (P : List Step → Prop) : Prop where
  nil : P []
  cons : ∀ step rest, (∀ body ∈ step.bodies, P body) → P rest → P (step :: rest)

namespace Inductive

variable {P : List Step → Prop}

mutual

theorem forall_bodies (h : Inductive P) : ∀ step : Step, ∀ body ∈ step.bodies, P body
  | .header _ _ body | .linkContent _ _ body | .group _ body | .buildGroup _ body _ | .hint _ body
  | .hintFor _ body | .contentFor _ _ _ body => List.forall_mem_singleton.mpr (h.program body)
  | .table _ body rows => List.forall_mem_cons.mpr ⟨h.program body, h.forall_rows rows⟩
  | .block _ _ _ _ elements => h.forall_elements elements
  | .list _ _ bodies | .listDefault bodies => h.forall_each bodies
  | .divergentGroup _ calls => h.forall_calls calls
  | .text .. | .linkTable .. | .link .. | .resolvedLink .. | .comment .. | .platformText ..
  | .platformTextAll .. | .extend _ | .signature _ | .askSignature _ | .askDefaults =>
      fun _ hbody => absurd hbody List.not_mem_nil

theorem program (h : Inductive P) : ∀ program : List Step, P program
  | [] => h.nil
  | step :: rest => h.cons step rest (h.forall_bodies step) (h.program rest)

theorem forall_each (h : Inductive P) : ∀ bodies : List (List Step), ∀ body ∈ bodies, P body
  | [] => fun _ hbody => absurd hbody List.not_mem_nil
  | body :: rest => List.forall_mem_cons.mpr ⟨h.program body, h.forall_each rest⟩

theorem forall_rows (h : Inductive P) :
    ∀ rows : List (Params × List Step), ∀ body ∈ rows.map Prod.snd, P body
  | [] => fun _ hbody => absurd hbody List.not_mem_nil
  | (_, body) :: rest => List.forall_mem_cons.mpr ⟨h.program body, h.forall_rows rest⟩

theorem forall_elements (h : Inductive P) :
    ∀ elements : List (Documentable × List Step), ∀ body ∈ elements.map Prod.snd, P body
  | [] => fun _ hbody => absurd hbody List.not_mem_nil
  | (_, body) :: rest => List.forall_mem_cons.mpr ⟨h.program body, h.forall_elements rest⟩

theorem forall_calls (h : Inductive P) : ∀ calls : List (InstanceCall (List Step)),
    ∀ body ∈ calls.flatMap fun call => call.writes.map SlotWrite.body, P body
  | [] => fun _ hbody => absurd hbody List.not_mem_nil
  | ⟨_, _, _, _, writes⟩ :: rest =>
      List.forall_mem_append.mpr ⟨h.forall_writes writes, h.forall_calls rest⟩

theorem forall_writes (h : Inductive P) :
    ∀ writes : List (SlotWrite (List Step)), ∀ body ∈ writes.map SlotWrite.body, P body
  | [] => fun _ hbody => absurd hbody List.not_mem_nil
  | ⟨_, _, body⟩ :: rest => List.forall_mem_cons.mpr ⟨h.program body, h.forall_writes rest⟩

end

end Inductive

theorem induction {P : List Step → Prop} (nil : P [])
    (cons : ∀ step rest, (∀ body ∈ step.bodies, P body) → P rest → P (step :: rest))
    (program : List Step) : P program :=
  Inductive.program ⟨nil, cons⟩ program

theorem runEach_eq_map (bodies : List (List Step)) : runEach bodies = bodies.map runAll := by
  induction bodies with
  | nil => rfl
  | cons body rest ih => rw [runEach, ih, List.map_cons]

theorem runElements_eq_map (elements : List (Documentable × List Step)) :
    runElements elements = elements.map fun element => (element.1, runAll element.2) := by
  induction elements with
  | nil => rfl
  | cons element rest ih => rw [runElements, ih, List.map_cons]

theorem runRows_eq_mapM (rows : List (Params × List Step)) :
    runRows rows = rows.mapM fun (params, body) => Build.buildGroup params (runAll body) := by
  induction rows with
  | nil => rfl
  | cons row rest ih => rw [runRows, ih, List.mapM_cons]

theorem runWrites_eq_map (writes : List (SlotWrite (List Step))) :
    runWrites writes = writes.map fun write => { write with body := runAll write.body } := by
  induction writes with
  | nil => rfl
  | cons write rest ih => rw [runWrites, ih, List.map_cons]

theorem runCalls_eq_map (calls : List (InstanceCall (List Step))) :
    runCalls calls = calls.map InstanceCall.compiled := by
  induction calls with
  | nil => rfl
  | cons call rest ih => rw [runCalls, ih, List.map_cons, InstanceCall.compiled, runWrites_eq_map]

theorem composed_run {step : Step} (h : ∀ body ∈ step.bodies, Build.Composed (runAll body)) :
    Build.Composed step.run := by
  cases step with
  | text s params => exact .text s params
  | header level params body => exact .header level params (h body List.mem_cons_self)
  | linkTable dris params => exact .linkTable dris params
  | table params body rows =>
      rw [bodies, List.forall_mem_cons, List.forall_mem_map] at h
      rw [run, runRows_eq_mapM]
      apply Build.Composed.table
      apply h.1.bind
      intro _
      exact Build.Composed.mapM fun row hrow => .buildGroup row.1 (h.2 row hrow)
  | block name level params renderWhenEmpty elements =>
      rw [bodies, List.forall_mem_map] at h
      rw [run, runElements_eq_map]
      apply Build.Composed.block
      exact List.forall_mem_map.mpr h
  | list framing params bodies =>
      rw [run, runEach_eq_map]
      apply Build.Composed.list
      exact List.forall_mem_map.mpr h
  | listDefault bodies =>
      rw [run, runEach_eq_map]
      apply Build.Composed.listDefault
      exact List.forall_mem_map.mpr h
  | link s address params => exact .link s address params
  | linkContent address params body =>
      exact .linkContent address params (h body List.mem_cons_self)
  | resolvedLink s address params => exact .resolvedLink s address params
  | comment tag params => exact .comment tag params
  | group params body => exact .group params (h body List.mem_cons_self)
  | buildGroup params body append =>
      have hbody := h body List.mem_cons_self
      apply (Build.Composed.buildGroup params hbody).bind
      intro g
      apply (Build.Composed.observe (.group g)).bind
      intro _
      cases append with
      | true => exact .extend [.group g]
      | false => exact .pure ()
  | hint params body => exact .hint params (h body List.mem_cons_self)
  | hintFor dri body => exact .hint (.ofDri dri) (h body List.mem_cons_self)
  | platformText values platforms transform => exact .platformText values platforms transform
  | platformTextAll values transform => exact .platformTextAll values transform
  | extend nodes => exact .extend nodes
  | signature documentable =>
      exact (Build.Composed.signature documentable).bind fun node => .extend [node]
  | askSignature documentable =>
      exact (Build.Composed.signature documentable).bind fun node => .observe (.signature node)
  | contentFor dris platforms params body =>
      have hbody := h body List.mem_cons_self
      exact (Build.Composed.contentFor dris platforms params hbody).bind fun g =>
        .extend [.group g]
  | askDefaults => exact Build.Composed.defaults.bind fun scope => .observe (.scope scope)
  | divergentGroup params calls =>
      rw [run, runCalls_eq_map]
      apply Build.Composed.divergentGroup
      rw [List.forall_mem_map]
      intro call hcall
      rw [InstanceCall.compiled, List.forall_mem_map]
      intro write hwrite
      exact h write.body (List.mem_flatMap.mpr ⟨call, hcall, List.mem_map_of_mem hwrite⟩)

theorem composed_runAll (program : List Step) : Build.Composed (runAll program) := by
  induction program using Step.induction with
  | nil => exact .pure ()
  | cons step rest hbodies hrest => exact (composed_run hbodies).bind fun _ => hrest

theorem appendOnly_runAll (program : List Step) : Build.AppendOnly (runAll program) :=
  (composed_runAll program).appendOnly

section nodes

variable (tools : Toolkit) (scope : Scope)

theorem nodes_runAll_cons (step : Step) (rest : List Step) :
    (runAll (step :: rest)).nodes tools scope = do
      let front ← step.run.nodes tools scope
      let back ← (runAll rest).nodes tools scope
      return front ++ back :=
  Build.nodes_seq (composed_run fun body _ => composed_runAll body).appendOnly
    (appendOnly_runAll rest) tools scope

theorem nodes_runAll_append (front back : List Step) :
    (runAll (front ++ back)).nodes tools scope = do
      let first ← (runAll front).nodes tools scope
      let second ← (runAll back).nodes tools scope
      return first ++ second := by
  induction front with
  | nil => exact (bind_pure _).symm
  | cons step rest ih =>
      rw [List.cons_append, nodes_runAll_cons, ih, nodes_runAll_cons]
      simp only [bind_assoc, pure_bind, List.append_assoc]

theorem nodes_run_header (level : UInt8) (params : Params) (body : List Step) :
    (header level params body).run.nodes tools scope =
      (fun children => [.header level ⟨children, params.resolve scope .main⟩]) <$>
        (runAll body).nodes tools (params.resolve scope .main).toScope :=
  Build.nodes_header tools scope level params (appendOnly_runAll body)

theorem nodes_run_linkContent (address : Dri) (params : Params) (body : List Step) :
    (linkContent address params body).run.nodes tools scope =
      (fun children => [.driLink children address (params.resolve scope .main)]) <$>
        (runAll body).nodes tools (params.resolve scope .main).toScope :=
  Build.nodes_linkContent tools scope address params (appendOnly_runAll body)

theorem nodes_run_group (params : Params) (body : List Step) :
    (group params body).run.nodes tools scope =
      (fun children => [.group ⟨children, params.resolve scope .main⟩]) <$>
        (runAll body).nodes tools (params.resolve scope .main).toScope :=
  Build.nodes_group tools scope params (appendOnly_runAll body)

theorem nodes_run_hint (params : Params) (body : List Step) :
    (hint params body).run.nodes tools scope =
      (fun children => [.platformHinted (.group ⟨children, params.resolve scope .main⟩)
        (params.resolve scope .main).platforms]) <$>
        (runAll body).nodes tools (params.resolve scope .main).toScope :=
  Build.nodes_hint tools scope params (appendOnly_runAll body)

theorem nodes_run_buildGroup (params : Params) (body : List Step) (append : Bool) :
    (buildGroup params body append).run.nodes tools scope =
      (fun children => if append then [.group ⟨children, params.resolve scope .main⟩] else []) <$>
        (runAll body).nodes tools (params.resolve scope .main).toScope := by
  have hbody := appendOnly_runAll body
  let handBack (g : Group) : Build Unit := do
    Run.observe (.group g)
    if append then Build.push (.group g) else pure ()
  have hnodes (g : Group) :
      (handBack g).nodes tools scope = pure (if append then [.group g] else []) := by
    cases append <;> rfl
  have happend (g : Group) : Build.AppendOnly (handBack g) := by
    apply (Build.appendOnly_lift (Run.settled_observe _)).bind
    intro _
    split
    · exact Build.appendOnly_push _
    · exact Build.appendOnly_pure ()
  refine (Build.nodes_bind (Build.appendOnly_buildGroup params hbody) happend tools scope).trans ?_
  rw [Build.yield_buildGroup tools scope params hbody]
  simp only [hnodes, bind_map_left, pure_bind, List.nil_append]
  exact bind_pure_comp _ _

theorem nodes_run_contentFor (dris : DriSet) (platforms : PlatformSet) (params : Params)
    (body : List Step) :
    (contentFor dris platforms params body).run.nodes tools scope =
      (fun g => [.group g]) <$>
        (Run.contentFor dris platforms params (runAll body)).value tools := by
  have hsettled : Run.Settled (Run.contentFor dris platforms params (runAll body)) :=
    Build.settled_inScope (appendOnly_runAll body) _
  rw [run, Build.nodes_bind_push tools scope (Build.appendOnly_lift hsettled),
    Build.yield_lift hsettled, Functor.map_map]
  rfl

theorem nodes_run_table (params : Params) (body : List Step) (rows : List (Params × List Step)) :
    (table params body rows).run.nodes tools scope = do
      let before ← (runAll body).nodes tools scope
      let groups ← Build.rowGroups tools (fun row => row.1.resolve scope .main)
        (fun row => runAll row.2) rows
      return before ++ [.table [] groups (params.resolve scope .main)] := by
  have hrows := fun row (_ : row ∈ rows) => appendOnly_runAll row.2
  have hgroups := Build.appendOnly_buildGroups Prod.fst hrows
  rw [run, runRows_eq_mapM, Build.nodes_table tools scope params
    ((appendOnly_runAll body).bind fun _ => hgroups),
    Build.yield_bind (appendOnly_runAll body) fun _ => hgroups, Build.yield_eq_nodes,
    Build.yield_buildGroups tools scope Prod.fst hrows]
  simp only [bind_map_left, map_bind, bind_pure_comp, Functor.map_map, List.append_nil]

theorem nodes_run_block (name : String) (level : UInt8) (params : Params)
    (renderWhenEmpty : Bool) (elements : List (Documentable × List Step)) :
    (block name level params renderWhenEmpty elements).run.nodes tools scope =
      if elements.isEmpty && !renderWhenEmpty then pure []
      else
        (fun rows =>
          [.header level ⟨[.text name { toScope := scope }], { toScope := scope }⟩,
            .table [] rows (params.resolve scope .main)]) <$>
          Build.rowGroups tools (Build.elementAttrs (params.resolve scope .main))
            (fun element => runAll element.2) elements := by
  have helements : ∀ element ∈ runElements elements, Build.AppendOnly element.2 := by
    rw [runElements_eq_map, List.forall_mem_map]
    intro element _
    exact appendOnly_runAll element.2
  rw [run, Build.nodes_block tools scope name level params renderWhenEmpty helements,
    runElements_eq_map, List.isEmpty_map]
  simp only [Build.rowGroups, List.mapM_map]
  rfl

theorem nodes_run_list (framing : Framing) (params : Params) (bodies : List (List Step)) :
    (list framing params bodies).run.nodes tools scope =
      Build.framed framing (params.resolve scope .main) <$>
        bodies.mapM fun body => (runAll body).nodes tools scope := by
  have hbodies : ∀ body ∈ bodies.map runAll, Build.AppendOnly (id body) :=
    List.forall_mem_map.mpr fun body _ => appendOnly_runAll body
  rw [run, runEach_eq_map, Build.nodes_list tools scope framing params hbodies, List.mapM_map]
  rfl

theorem nodes_run_listDefault (bodies : List (List Step)) :
    (listDefault bodies).run.nodes tools scope =
      Build.framed { separator := tools.listSeparator } { toScope := scope } <$>
        bodies.mapM fun body => (runAll body).nodes tools scope := by
  have hbodies : ∀ body ∈ bodies.map runAll, Build.AppendOnly (id body) :=
    List.forall_mem_map.mpr fun body _ => appendOnly_runAll body
  rw [run, runEach_eq_map, Build.nodes_listDefault tools scope hbodies, List.mapM_map]
  rfl

theorem nodes_run_divergentGroup (params : Params) (calls : List (InstanceCall (List Step))) :
    (divergentGroup params calls).run.nodes tools scope =
      (fun found =>
        let instances := found.flatMap Option.toList
        [.divergentGroup instances
          { params.resolve scope .main with platforms := platformsOf instances }]) <$>
        calls.mapM fun call => call.compiled.made? tools (params.resolve scope .main) := by
  have hcalls : ∀ call ∈ runCalls calls, ∀ write ∈ call.writes, Build.AppendOnly write.body := by
    rw [runCalls_eq_map, List.forall_mem_map]
    intro call _
    exact List.forall_mem_map.mpr fun write _ => appendOnly_runAll write.body
  rw [run, Build.nodes_divergentGroup tools scope params hcalls, runCalls_eq_map, List.mapM_map]
  rfl

end nodes

end Step

/-- What content for some entities is built from, apart from the steps. -/
structure Entry where
  dris : DriSet
  platforms : PlatformSet
  params : Params

namespace Entry

def attrs (entry : Entry) : Attrs :=
  entry.params.resolve { dris := entry.dris, platforms := entry.platforms } .main

/-- The content that a program builds for these inputs. -/
def build (entry : Entry) (tools : Toolkit) (program : List Step) :
    Except MissingDivergent Group :=
  (Run.contentFor entry.dris entry.platforms entry.params (Step.runAll program)).value tools

theorem build_eq (entry : Entry) (tools : Toolkit) (program : List Step) :
    entry.build tools program =
      (⟨·, entry.attrs⟩) <$> (Step.runAll program).nodes tools entry.attrs.toScope :=
  Build.value_inScope (Step.appendOnly_runAll program) entry.attrs tools

end Entry

end DocPages
