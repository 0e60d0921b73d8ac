import DocPages.Proofs.Build.Composition
import DocPages.PropertyKind

namespace DocPages

section

variable [PropertyFamily]

/-- The group that was written last to a slot. -/
def lastWritten (slot : Slot) (written : List (Slot × Group)) : Option Group :=
  (written.filter fun write => write.1 = slot).getLast?.map Prod.snd

theorem lastWritten_append_singleton (slot : Slot) (written : List (Slot × Group))
    (write : Slot × Group) :
    lastWritten slot (written ++ [write]) =
      if write.1 = slot then some write.2 else lastWritten slot written := by
  unfold lastWritten
  rw [List.filter_append, List.filter_singleton]
  split
  · rename_i h
    simp [h]
  · rename_i h
    simp [h]

theorem isSome_lastWritten_iff {slot : Slot} {written : List (Slot × Group)} :
    (lastWritten slot written).isSome ↔ slot ∈ written.map Prod.fst := by
  induction written using List.reverseRecOn with
  | nil => simp [lastWritten]
  | append_singleton rest write ih =>
      rw [lastWritten_append_singleton, List.map_append, List.mem_append, ← ih, List.map_singleton,
        List.mem_singleton]
      split
      · rename_i h
        simp [h]
      · rename_i h
        simp [Ne.symm h]

theorem lastWritten_swap {first second : Slot × Group} (h : first.1 ≠ second.1) (slot : Slot)
    (front back : List (Slot × Group)) :
    lastWritten slot (front ++ first :: second :: back) =
      lastWritten slot (front ++ second :: first :: back) := by
  unfold lastWritten
  simp only [List.filter_append, List.filter_cons]
  rcases Decidable.em (first.1 = slot) with rfl | hfirst
  · simp [Ne.symm h]
  · simp [hfirst]

theorem Slots.ofWrites_eq (written : List (Slot × Group)) :
    ofWrites written =
      ⟨lastWritten .before written, lastWritten .divergent written,
        lastWritten .after written⟩ := by
  induction written using List.reverseRecOn with
  | nil => rfl
  | append_singleton rest write ih =>
      have hfill : ofWrites (rest ++ [write]) = (ofWrites rest).fill write.1 write.2 := by
        rw [ofWrites, List.foldl_append]
        rfl
      obtain ⟨slot, group⟩ := write
      rw [hfill, ih]
      cases slot <;> simp [lastWritten_append_singleton, fill]

theorem Slots.ofWrites_swap {first second : Slot × Group} (h : first.1 ≠ second.1)
    (front back : List (Slot × Group)) :
    ofWrites (front ++ first :: second :: back) = ofWrites (front ++ second :: first :: back) := by
  simp only [ofWrites_eq, lastWritten_swap h]

namespace InstanceCall

/-- Some write of the call is to the divergent slot. -/
def Diverges {β : Type} (call : InstanceCall β) : Prop :=
  ∃ write ∈ call.writes, write.slot = .divergent

/-- The instance that a call in a group makes of what was written: its identity and platforms are
those given for it, its role, styles and properties those it sets or else those of the group. -/
structure Makes {β : Type} (call : InstanceCall β) (group : Attrs)
    (written : List (Slot × Group)) (variant : Instance) : Prop where
  dris_eq : variant.attrs.dris = call.dris
  platforms_eq : variant.attrs.platforms = call.platforms
  kind_eq : variant.attrs.kind = call.params.kind.getD group.kind
  styles_eq : variant.attrs.styles = call.params.styles.getD group.styles
  extra_eq : variant.attrs.extra = call.params.extra.getD group.extra
  before_eq : variant.before = lastWritten .before written
  divergent_eq : some variant.divergent = lastWritten .divergent written
  after_eq : variant.after = lastWritten .after written

section outcome

variable {β : Type} {call : InstanceCall β} {group : Attrs} {written : List (Slot × Group)}

theorem toInstance_eq_ok_iff {variant : Instance} :
    (Slots.ofWrites written).toInstance (call.attrs group) = .ok variant ↔
      call.Makes group written variant := by
  rw [Slots.ofWrites_eq, Slots.toInstance]
  constructor
  · intro h
    cases hdivergent : lastWritten .divergent written with
    | none =>
        simp only [hdivergent] at h
        cases h
    | some divergent =>
        simp only [hdivergent] at h
        obtain rfl := Except.ok.inj h
        exact ⟨rfl, rfl, rfl, rfl, rfl, rfl, hdivergent.symm, rfl⟩
  · rintro ⟨hdris, hplatforms, hkind, hstyles, hextra, hbefore, hdivergent, hafter⟩
    have hattrs : variant.attrs = call.attrs group :=
      Attrs.ext hdris hplatforms hstyles hextra hkind
    simp only [← hdivergent]
    rw [← hbefore, ← hafter, ← hattrs]

theorem toInstance_eq_error_iff {missing : MissingDivergent} :
    (Slots.ofWrites written).toInstance (call.attrs group) = .error missing ↔
      lastWritten .divergent written = none ∧ missing = ⟨call.dris⟩ := by
  rw [Slots.ofWrites_eq, Slots.toInstance]
  cases lastWritten .divergent written with
  | none => exact ⟨fun h => ⟨rfl, (Except.error.inj h).symm⟩, fun h => congrArg _ h.2.symm⟩
  | some divergent => exact ⟨nofun, nofun⟩

end outcome

section calls

variable {call : InstanceCall (Build Unit)} {tools : Toolkit} {group : Attrs}
  {written : List (Slot × Group)}

theorem diverges_iff (h : call.written tools group = .ok written) :
    call.Diverges ↔ (lastWritten .divergent written).isSome := by
  have hslots : written.map Prod.fst = call.writes.map SlotWrite.slot := by
    apply map_of_mapM_eq_ok _ h
    intro write result hresult
    obtain ⟨children, _, rfl⟩ := map_eq_ok.mp hresult
    rfl
  rw [isSome_lastWritten_iff, hslots, List.mem_map]
  rfl

theorem exists_makes (h : call.written tools group = .ok written) (hdiverges : call.Diverges) :
    ∃ variant, call.Makes group written variant := by
  cases hresult : (Slots.ofWrites written).toInstance (call.attrs group) with
  | ok variant => exact ⟨variant, toInstance_eq_ok_iff.mp hresult⟩
  | error missing =>
      have hnone := (toInstance_eq_error_iff.mp hresult).1
      rw [diverges_iff h, hnone] at hdiverges
      cases hdiverges

theorem Makes.diverges {variant : Instance} (h : call.Makes group written variant)
    (hwritten : call.written tools group = .ok written) : call.Diverges := by
  rw [diverges_iff hwritten, ← h.divergent_eq]
  rfl

theorem not_diverges_iff (h : call.written tools group = .ok written) :
    ¬ call.Diverges ↔
      (Slots.ofWrites written).toInstance (call.attrs group) = .error ⟨call.dris⟩ := by
  rw [toInstance_eq_error_iff, diverges_iff h, Option.not_isSome_iff_eq_none]
  exact (and_iff_left rfl).symm

variable (tools group)

/-- All bodies of the writes of a call come to an end. -/
def Builds (call : InstanceCall (Build Unit)) : Prop :=
  ∃ written, call.written tools group = .ok written

/-- The instances of some calls in a group: one for each call that diverges, in order. Calls that do
not are left out, unless they are required. -/
inductive Made : List (InstanceCall (Build Unit)) → List Instance → Prop
  | nil : Made [] []
  | taken {call rest written variant instances} :
      call.written tools group = .ok written → call.Makes group written variant →
        Made rest instances → Made (call :: rest) (variant :: instances)
  | left {call rest instances} :
      call.Builds tools group → ¬ call.Diverges → call.required = false →
        Made rest instances → Made (call :: rest) instances

variable {tools group}

theorem made?_eq_some_iff {variant : Instance} :
    call.made? tools group = .ok (some variant) ↔
      ∃ written, call.written tools group = .ok written ∧ call.Makes group written variant := by
  rw [made?, bind_eq_ok]
  simp only [settle_eq_some_iff, toInstance_eq_ok_iff]

theorem made?_eq_none_iff :
    call.made? tools group = .ok none ↔
      call.Builds tools group ∧ ¬ call.Diverges ∧ call.required = false := by
  rw [made?, bind_eq_ok]
  constructor
  · rintro ⟨written, hwritten, h⟩
    obtain ⟨hrequired, missing, herror⟩ := settle_eq_none_iff.mp h
    obtain ⟨_, rfl⟩ := toInstance_eq_error_iff.mp herror
    exact ⟨⟨written, hwritten⟩, (not_diverges_iff hwritten).mpr herror, hrequired⟩
  · rintro ⟨⟨written, hwritten⟩, hdiverges, hrequired⟩
    have herror := (not_diverges_iff hwritten).mp hdiverges
    exact ⟨written, hwritten, settle_eq_none_iff.mpr ⟨hrequired, _, herror⟩⟩

theorem made?_eq_error_iff {missing : MissingDivergent} :
    call.made? tools group = .error missing ↔
      call.written tools group = .error missing ∨
        call.Builds tools group ∧ ¬ call.Diverges ∧ call.required = true ∧
          missing = ⟨call.dris⟩ := by
  rw [made?, bind_eq_error]
  apply or_congr_right
  constructor
  · rintro ⟨written, hwritten, h⟩
    obtain ⟨hrequired, herror⟩ := settle_eq_error_iff.mp h
    obtain ⟨_, rfl⟩ := toInstance_eq_error_iff.mp herror
    exact ⟨⟨written, hwritten⟩, (not_diverges_iff hwritten).mpr herror, hrequired, rfl⟩
  · rintro ⟨⟨written, hwritten⟩, hdiverges, hrequired, rfl⟩
    have herror := (not_diverges_iff hwritten).mp hdiverges
    exact ⟨written, hwritten, settle_eq_error_iff.mpr ⟨hrequired, herror⟩⟩

theorem exists_made?_eq_ok_iff :
    (∃ found, call.made? tools group = .ok found) ↔
      call.Builds tools group ∧ (call.required = true → call.Diverges) := by
  constructor
  · rintro ⟨found, h⟩
    cases found with
    | none =>
        obtain ⟨hbuilds, _, hrequired⟩ := made?_eq_none_iff.mp h
        refine ⟨hbuilds, ?_⟩
        intro htrue
        rw [hrequired] at htrue
        cases htrue
    | some variant =>
        obtain ⟨written, hwritten, hmakes⟩ := made?_eq_some_iff.mp h
        exact ⟨⟨written, hwritten⟩, fun _ => hmakes.diverges hwritten⟩
  · rintro ⟨⟨written, hwritten⟩, hrequired⟩
    rcases Classical.em call.Diverges with hdiverges | hdiverges
    · obtain ⟨variant, hmakes⟩ := exists_makes hwritten hdiverges
      exact ⟨some variant, made?_eq_some_iff.mpr ⟨written, hwritten, hmakes⟩⟩
    · have hfalse := Bool.eq_false_iff.mpr (mt hrequired hdiverges)
      exact ⟨none, made?_eq_none_iff.mpr ⟨⟨written, hwritten⟩, hdiverges, hfalse⟩⟩

theorem mapM_made?_eq_ok_iff {calls : List (InstanceCall (Build Unit))}
    {instances : List Instance} :
    List.flatMap Option.toList <$> calls.mapM (fun call => call.made? tools group) =
        .ok instances ↔
      Made tools group calls instances := by
  constructor
  · intro h
    obtain ⟨found, hfound, rfl⟩ := map_eq_ok.mp h
    clear h
    induction calls generalizing found with
    | nil =>
        obtain rfl := Except.ok.inj hfound
        exact .nil
    | cons call rest ih =>
        rw [List.mapM_cons] at hfound
        obtain ⟨first, hfirst, hfound⟩ := bind_eq_ok.mp hfound
        obtain ⟨others, hothers, hfound⟩ := bind_eq_ok.mp hfound
        obtain rfl := Except.ok.inj hfound
        cases first with
        | none =>
            obtain ⟨hbuilds, hdiverges, hrequired⟩ := made?_eq_none_iff.mp hfirst
            exact .left hbuilds hdiverges hrequired (ih others hothers)
        | some variant =>
            obtain ⟨written, hwritten, hmakes⟩ := made?_eq_some_iff.mp hfirst
            exact .taken hwritten hmakes (ih others hothers)
  · intro h
    induction h with
    | nil => rfl
    | taken hwritten hmakes _ ih =>
        obtain ⟨others, hothers, rfl⟩ := map_eq_ok.mp ih
        rw [List.mapM_cons, made?_eq_some_iff.mpr ⟨_, hwritten, hmakes⟩, hothers]
        rfl
    | left hbuilds hdiverges hrequired _ ih =>
        obtain ⟨others, hothers, rfl⟩ := map_eq_ok.mp ih
        rw [List.mapM_cons, made?_eq_none_iff.mpr ⟨hbuilds, hdiverges, hrequired⟩, hothers]
        rfl

theorem made?_swap {front back : List (SlotWrite (Build Unit))}
    {first second : SlotWrite (Build Unit)} (hslots : first.slot ≠ second.slot)
    {found : Option Instance}
    (h : { call with writes := front ++ first :: second :: back }.made? tools group = .ok found) :
    { call with writes := front ++ second :: first :: back }.made? tools group = .ok found := by
  obtain ⟨written, hwritten, hfound⟩ := bind_eq_ok.mp h
  obtain ⟨left, x, y, right, rfl, hx, hy, hswapped⟩ := mapM_swap_eq_ok hwritten
  have hxslot : x.1 = first.slot := by
    obtain ⟨_, _, rfl⟩ := map_eq_ok.mp hx
    rfl
  have hyslot : y.1 = second.slot := by
    obtain ⟨_, _, rfl⟩ := map_eq_ok.mp hy
    rfl
  rw [← hxslot, ← hyslot] at hslots
  rw [Slots.ofWrites_swap hslots] at hfound
  exact bind_eq_ok.mpr ⟨_, hswapped, hfound⟩

theorem exists_run_instance? (h : ∀ write ∈ call.writes, write.body.AppendOnly)
    (hwritten : call.written tools group = .ok written) (log : List Observation) :
    ∃ seen, ∀ required,
      (ReaderT.run ({ call with required }.instance? group) tools).run log =
        (ReaderT.run (conclude required
          ((Slots.ofWrites written).toInstance (call.attrs group))) tools).run seen := by
  have hvalue : (call.gather group).valueAfter tools log =
      .ok ((Slots.ofWrites written).toInstance (call.attrs group)) := by
    rw [settled_gather group h tools log, value_gather tools group h, hwritten]
    rfl
  obtain ⟨⟨result, seen⟩, hrun, rfl⟩ := map_eq_ok.mp hvalue
  refine ⟨seen, ?_⟩
  intro required
  have hbind : (ReaderT.run ({ call with required }.instance? group) tools).run log =
      (ReaderT.run (call.gather group) tools).run log >>= fun (result, seen) =>
        (ReaderT.run (conclude required result) tools).run seen := rfl
  rw [hbind, hrun]
  rfl

end calls

end InstanceCall

namespace Build

open InstanceCall

variable {calls : List (InstanceCall (Build Unit))} (tools : Toolkit) (scope : Scope)
  (params : Params)

theorem nodes_divergentGroup_eq_ok_iff
    (h : ∀ call ∈ calls, ∀ write ∈ call.writes, write.body.AppendOnly) {nodes : List Node} :
    (divergentGroup params calls).nodes tools scope = .ok nodes ↔
      ∃ instances, Made tools (params.resolve scope .main) calls instances ∧
        nodes = [.divergentGroup instances
          { params.resolve scope .main with platforms := platformsOf instances }] := by
  rw [nodes_divergentGroup tools scope params h, map_eq_ok]
  constructor
  · rintro ⟨found, hfound, rfl⟩
    refine ⟨found.flatMap Option.toList, mapM_made?_eq_ok_iff.mp ?_, rfl⟩
    rw [hfound]
    rfl
  · rintro ⟨instances, hmade, rfl⟩
    obtain ⟨found, hfound, rfl⟩ := map_eq_ok.mp (mapM_made?_eq_ok_iff.mpr hmade)
    exact ⟨found, hfound, rfl⟩

theorem nodes_divergentGroup_eq_error_iff
    (h : ∀ call ∈ calls, ∀ write ∈ call.writes, write.body.AppendOnly)
    {missing : MissingDivergent} :
    (divergentGroup params calls).nodes tools scope = .error missing ↔
      ∃ front call back, calls = front ++ call :: back ∧
        (∀ other ∈ front, other.Builds tools (params.resolve scope .main) ∧
          (other.required = true → other.Diverges)) ∧
        (call.written tools (params.resolve scope .main) = .error missing ∨
          call.Builds tools (params.resolve scope .main) ∧ ¬ call.Diverges ∧
            call.required = true ∧ missing = ⟨call.dris⟩) := by
  rw [nodes_divergentGroup tools scope params h, map_eq_error, mapM_eq_error_iff]
  simp only [exists_made?_eq_ok_iff, made?_eq_error_iff]

theorem nodes_divergentGroup_left {front back : List (InstanceCall (Build Unit))}
    {call : InstanceCall (Build Unit)}
    (h : ∀ other ∈ front ++ call :: back, ∀ write ∈ other.writes, write.body.AppendOnly)
    (hnone : call.made? tools (params.resolve scope .main) = .ok none) :
    (divergentGroup params (front ++ call :: back)).nodes tools scope =
      (divergentGroup params (front ++ back)).nodes tools scope := by
  have hothers : ∀ other ∈ front ++ back, ∀ write ∈ other.writes, write.body.AppendOnly := by
    simp only [List.forall_mem_append, List.forall_mem_cons] at h ⊢
    exact ⟨h.1, h.2.2⟩
  rw [nodes_divergentGroup tools scope params h, nodes_divergentGroup tools scope params hothers,
    List.mapM_append, List.mapM_append, List.mapM_cons, hnone]
  cases front.mapM fun other => other.made? tools (params.resolve scope .main) with
  | error missing => rfl
  | ok before =>
      cases back.mapM fun other => other.made? tools (params.resolve scope .main) with
      | error missing => rfl
      | ok after =>
          have hfound : (before ++ none :: after).flatMap Option.toList =
              (before ++ after).flatMap Option.toList := by
            simp only [List.flatMap_append, List.flatMap_cons, Option.toList_none, List.nil_append]
          exact congrArg (fun instances => Except.ok [Node.divergentGroup instances
            { params.resolve scope .main with platforms := platformsOf instances }]) hfound

theorem nodes_divergentGroup_swap {earlier later : List (InstanceCall (Build Unit))}
    {call : InstanceCall (Build Unit)} {front back : List (SlotWrite (Build Unit))}
    {first second : SlotWrite (Build Unit)}
    (h : ∀ other ∈ earlier ++ { call with writes := front ++ first :: second :: back } :: later,
      ∀ write ∈ other.writes, write.body.AppendOnly)
    (hslots : first.slot ≠ second.slot) {nodes : List Node} :
    (divergentGroup params (earlier ++
        { call with writes := front ++ first :: second :: back } :: later)).nodes tools scope =
          .ok nodes ↔
      (divergentGroup params (earlier ++
        { call with writes := front ++ second :: first :: back } :: later)).nodes tools scope =
          .ok nodes := by
  have hswapped : ∀ other ∈
      earlier ++ { call with writes := front ++ second :: first :: back } :: later,
        ∀ write ∈ other.writes, write.body.AppendOnly := by
    simp only [List.forall_mem_append, List.forall_mem_cons] at h ⊢
    obtain ⟨hearlier, ⟨hfront, hfirst, hsecond, hback⟩, hlater⟩ := h
    exact ⟨hearlier, ⟨hfront, hsecond, hfirst, hback⟩, hlater⟩
  rw [nodes_divergentGroup tools scope params h, nodes_divergentGroup tools scope params hswapped,
    map_eq_ok, map_eq_ok]
  constructor
  · rintro ⟨found, hfound, hnodes⟩
    exact ⟨found, mapM_replace_eq_ok (fun _ => made?_swap hslots) hfound, hnodes⟩
  · rintro ⟨found, hfound, hnodes⟩
    exact ⟨found, mapM_replace_eq_ok (fun _ => made?_swap hslots.symm) hfound, hnodes⟩

/-- A call makes an instance exactly if it writes the divergent slot. Otherwise it hands back the
lack of one, told by its own entities, or ends the run if it is required. A run ends with a group of
the instances of its calls in order, on the platforms of these alone, or at the first call that ends
it. Calls that are left out leave no trace, and neighbouring writes to different slots may change
places. -/
theorem divergentGroup_runs
    (hbodies : ∀ call ∈ calls, ∀ write ∈ call.writes, Composed write.body) :
    let group := params.resolve scope .main
    (∀ call ∈ calls, ∀ written, call.written tools group = .ok written → ∀ log, ∃ seen,
      (call.Diverges → ∃ variant, call.Makes group written variant ∧
        (ReaderT.run ({ call with required := false }.instance? group) tools).run log =
          .ok (some variant, seen ++ [.divergentInstance (.ok ())]) ∧
        (ReaderT.run ({ call with required := true }.instance? group) tools).run log =
          .ok (some variant, seen)) ∧
      (¬ call.Diverges →
        (ReaderT.run ({ call with required := false }.instance? group) tools).run log =
          .ok (none, seen ++ [.divergentInstance (.error ⟨call.dris⟩)]) ∧
        (ReaderT.run ({ call with required := true }.instance? group) tools).run log =
          .error ⟨call.dris⟩)) ∧
    (∀ nodes, (divergentGroup params calls).nodes tools scope = .ok nodes ↔
      ∃ instances platforms, Made tools group calls instances ∧
        (∀ platform, platform ∈ platforms ↔
          ∃ variant ∈ instances, platform ∈ variant.attrs.platforms) ∧
        nodes = [.divergentGroup instances { group with platforms }]) ∧
    (∀ missing, (divergentGroup params calls).nodes tools scope = .error missing ↔
      ∃ front call back, calls = front ++ call :: back ∧
        (∀ other ∈ front, other.Builds tools group ∧
          (other.required = true → other.Diverges)) ∧
        (call.written tools group = .error missing ∨
          call.Builds tools group ∧ ¬ call.Diverges ∧ call.required = true ∧
            missing = ⟨call.dris⟩)) ∧
    (∀ front call back, calls = front ++ call :: back → call.Builds tools group →
      ¬ call.Diverges → call.required = false →
        (divergentGroup params calls).nodes tools scope =
          (divergentGroup params (front ++ back)).nodes tools scope) ∧
    ∀ earlier (call : InstanceCall (Build Unit)) later front first second back,
      calls = earlier ++ { call with writes := front ++ first :: second :: back } :: later →
        first.slot ≠ second.slot → ∀ nodes,
          (divergentGroup params calls).nodes tools scope = .ok nodes ↔
            (divergentGroup params (earlier ++
              { call with writes := front ++ second :: first :: back } :: later)).nodes
                tools scope = .ok nodes := by
  intro group
  have happend : ∀ call ∈ calls, ∀ write ∈ call.writes, write.body.AppendOnly :=
    fun call hcall write hwrite => (hbodies call hcall write hwrite).appendOnly
  refine ⟨?_, ?_, fun _ => nodes_divergentGroup_eq_error_iff tools scope params happend, ?_, ?_⟩
  · intro call hcall written hwritten log
    obtain ⟨seen, hrun⟩ := exists_run_instance? (happend call hcall) hwritten log
    refine ⟨seen, ?_, ?_⟩
    · intro hdiverges
      obtain ⟨variant, hmakes⟩ := exists_makes hwritten hdiverges
      refine ⟨variant, hmakes, ?_⟩
      rw [hrun, hrun, toInstance_eq_ok_iff.mpr hmakes]
      exact ⟨rfl, rfl⟩
    · intro hdiverges
      rw [hrun, hrun, (not_diverges_iff hwritten).mp hdiverges]
      exact ⟨rfl, rfl⟩
  · intro nodes
    rw [nodes_divergentGroup_eq_ok_iff tools scope params happend]
    constructor
    · rintro ⟨instances, hmade, rfl⟩
      exact ⟨instances, platformsOf instances, hmade, OrderedSet.eq_ofList_flatMap_iff.mp rfl, rfl⟩
    · rintro ⟨instances, platforms, hmade, hplatforms, rfl⟩
      have hsame : platforms = platformsOf instances :=
        OrderedSet.eq_ofList_flatMap_iff.mpr hplatforms
      rw [hsame]
      exact ⟨instances, hmade, rfl⟩
  · rintro front call back rfl hbuilds hdiverges hrequired
    exact nodes_divergentGroup_left tools scope params happend
      (made?_eq_none_iff.mpr ⟨hbuilds, hdiverges, hrequired⟩)
  · rintro earlier call later front first second back rfl hslots nodes
    exact nodes_divergentGroup_swap tools scope params happend hslots

end Build

end

namespace Build

theorem divergentGroup_runs_twoCalls :
    let tools : Toolkit := ⟨DocTag.toContent, Documentable.functionSignature, ", "⟩
    let jvm : PlatformSet := Keyed.singleton ⟨"jvm", .jvm, []⟩
    let js : PlatformSet := Keyed.singleton ⟨"js", .js, []⟩
    let write (slot : Slot) (s : String) : SlotWrite (Build Unit) := { slot, body := text s {} }
    let bare : InstanceCall (Build Unit) :=
      ⟨false, Keyed.singleton (.package "a"), jvm, {}, [write .before "before"]⟩
    let full : InstanceCall (Build Unit) :=
      ⟨true, Keyed.singleton (.package "b"), js, { platforms := some jvm, kind := some .source },
        [write .divergent "first", write .after "after", write .divergent "last"]⟩
    let scope : Scope := { platforms := jvm }
    let group := ({} : Params).resolve scope .main
    let own : Attrs := { dris := Keyed.singleton (.package "b"), platforms := js, kind := .main }
    let variant : Instance :=
      ⟨none, ⟨[.text "last" own], own⟩, some ⟨[.text "after" own], own⟩,
        { own with kind := .source }⟩
    (∀ call ∈ [bare, full], ∀ write ∈ call.writes, Composed write.body) ∧
      (∃ seen, (ReaderT.run (bare.instance? group) tools).run [] =
        .ok (none, seen ++ [.divergentInstance (.error ⟨bare.dris⟩)])) ∧
      (divergentGroup {} [bare, full]).nodes tools scope =
        .ok [.divergentGroup [variant] { group with platforms := js }] ∧
      (divergentGroup {} [bare, full]).nodes tools scope =
        (divergentGroup {} [full]).nodes tools scope := by
  intro tools jvm js write bare full scope group own variant
  have hbodies : ∀ call ∈ [bare, full], ∀ write ∈ call.writes, Composed write.body := by
    simp only [bare, full, write, List.forall_mem_cons, List.not_mem_nil, false_imp_iff,
      implies_true, and_true]
    exact ⟨.text _ _, .text _ _, .text _ _, .text _ _⟩
  have hbare : ¬ bare.Diverges := by
    rintro ⟨write, hwrite, hslot⟩
    obtain rfl := List.mem_singleton.mp hwrite
    cases hslot
  have hmakes : full.Makes group [(.divergent, ⟨[.text "first" own], own⟩),
      (.after, ⟨[.text "after" own], own⟩), (.divergent, ⟨[.text "last" own], own⟩)] variant :=
    ⟨rfl, rfl, rfl, rfl, rfl, rfl, rfl, rfl⟩
  have hmade : InstanceCall.Made tools group [bare, full] [variant] :=
    .left ⟨_, rfl⟩ hbare rfl (.taken rfl hmakes .nil)
  obtain ⟨hcalls, hok, _, hleft, _⟩ := divergentGroup_runs tools scope {} hbodies
  obtain ⟨seen, _, hmissing⟩ := hcalls bare List.mem_cons_self _ rfl []
  refine ⟨hbodies, ⟨seen, (hmissing hbare).1⟩, (hok _).mpr ⟨_, js, hmade, ?_, rfl⟩,
    hleft [] bare [full] rfl ⟨_, rfl⟩ hbare rfl⟩
  intro platform
  simp [variant, own]

end Build

end DocPages
