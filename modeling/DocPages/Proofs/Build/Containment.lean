import DocPages.Proofs.Build.Program
import DocPages.Proofs.Content.Containment

/-!
Programs whose explicit platforms narrow build trees that narrow.

`Step.Fits` says of one step that the platforms it is given, and those of the nodes it takes over,
are within the scope it is used in. A program narrows if its steps fit, and so do those of the
bodies in the scopes that they are run in. The step lemma is `fitsIn_run`.
-/

namespace DocPages

open Build

variable [PropertyFamily]

/-- No other platforms are set than some of the scope. -/
def Params.Narrow (params : Params) (scope : Scope) : Prop :=
  ∀ platforms ∈ params.platforms, platforms ⊆ scope.platforms

theorem Params.Narrow.resolve_subset {params : Params} {scope : Scope} (h : params.Narrow scope)
    (kind : Kind) : (params.resolve scope kind).platforms ⊆ scope.platforms := by
  cases hplatforms : params.platforms with
  | none =>
      rw [resolve, hplatforms]
      exact OrderedSet.subset_refl _
  | some platforms =>
      rw [resolve, hplatforms]
      exact h platforms hplatforms

/-- All content of a converted comment applies to the platforms that it is converted for. -/
def Toolkit.Faithful (tools : Toolkit) : Prop :=
  ∀ tag identity platforms, ∀ node ∈ tools.comment tag identity platforms,
    node.Carries platforms

namespace Step

/-- The programs that a step runs within its scope, with the scopes that they are run in. -/
def inner (scope : Scope) : Step → List (Scope × List Step)
  | header _ params body | linkContent _ params body | group params body
  | buildGroup params body _ | hint params body => [((params.resolve scope .main).toScope, body)]
  | hintFor dri body => [(((Params.ofDri dri).resolve scope .main).toScope, body)]
  | table _ body rows =>
      (scope, body) :: rows.map fun row => ((row.1.resolve scope .main).toScope, row.2)
  | block _ _ params _ elements => elements.map fun element =>
      ((elementAttrs (params.resolve scope .main) element).toScope, element.2)
  | list _ _ bodies | listDefault bodies => bodies.map fun body => (scope, body)
  | divergentGroup params calls => calls.flatMap fun call => call.writes.map fun write =>
      ((InstanceCall.writeAttrs (call.attrs (params.resolve scope .main)) write).toScope,
        write.body)
  | text .. | linkTable .. | link .. | resolvedLink .. | comment .. | platformText ..
  | platformTextAll .. | extend _ | signature _ | askSignature _ | contentFor .. | askDefaults => []

/-- The platforms given to one step narrow the scope, and what it takes over fits in there. -/
def Fits (tools : Toolkit) (scope : Scope) : Step → Prop
  | text _ params | header _ params _ | linkTable _ params | list _ params _ | link _ _ params
  | linkContent _ params _ | resolvedLink _ _ params | comment _ params | group params _
  | buildGroup params _ _ | hint params _ => params.Narrow scope
  | table params _ rows => params.Narrow scope ∧ ∀ row ∈ rows,
      (row.1.resolve scope .main).platforms ⊆ (params.resolve scope .main).platforms
  | block _ _ params _ elements => params.Narrow scope ∧ ∀ element ∈ elements,
      element.1.platforms ⊆ (params.resolve scope .main).platforms
  | platformText values platforms transform => ∀ entry ∈ values,
      isShown platforms transform entry = true → entry.1 ∈ scope.platforms
  | platformTextAll values transform => ∀ entry ∈ values,
      isShown values.keys transform entry = true → entry.1 ∈ scope.platforms
  | extend nodes => ∀ node ∈ nodes, node.FitsIn scope.platforms
  | signature documentable => (tools.signature documentable).FitsIn scope.platforms
  | contentFor dris platforms params body => ∀ root,
      (Run.contentFor dris platforms params (runAll body)).value tools = .ok root →
        (Node.group root).FitsIn scope.platforms
  | divergentGroup _ calls => ∀ call ∈ calls, call.platforms ⊆ scope.platforms ∧
      ∀ write ∈ call.writes, ∀ platforms ∈ write.params.platforms, platforms ⊆ call.platforms
  | hintFor .. | listDefault _ | askSignature _ | askDefaults => True

/-- All steps fit in the scopes that they are used in, at every depth. -/
inductive Narrows (tools : Toolkit) : Scope → List Step → Prop
  | nil (scope : Scope) : Narrows tools scope []
  | cons {scope : Scope} {step : Step} {rest : List Step} :
      step.Fits tools scope → (∀ body ∈ step.inner scope, Narrows tools body.1 body.2) →
        Narrows tools scope rest → Narrows tools scope (step :: rest)

/-- All that a program makes in a scope fits in there. -/
def Sound (tools : Toolkit) (scope : Scope) (program : List Step) : Prop :=
  ∀ nodes, (runAll program).nodes tools scope = .ok nodes →
    ∀ node ∈ nodes, node.FitsIn scope.platforms

variable {tools : Toolkit} {scope : Scope} {platforms : PlatformSet}

theorem Sound.wrap {own : Attrs} {body : List Step} (h : Sound tools own.toScope body)
    {node : List Node → Node}
    (hnode : ∀ children, (∀ child ∈ children, child.FitsIn own.platforms) →
      (node children).FitsIn platforms) {nodes : List Node}
    (hrun : (fun children => [node children]) <$> (runAll body).nodes tools own.toScope =
      .ok nodes) : ∀ n ∈ nodes, n.FitsIn platforms := by
  obtain ⟨children, hchildren, rfl⟩ := map_eq_ok.mp hrun
  exact List.forall_mem_singleton.mpr (hnode children (h children hchildren))

theorem fitsIn_rowGroups {α : Type} {l : List α} {attrs : α → Attrs} {body : α → List Step}
    (h : ∀ a ∈ l, Sound tools (attrs a).toScope (body a))
    (hattrs : ∀ a ∈ l, (attrs a).platforms ⊆ platforms) {rows : List Group}
    (hrows : rowGroups tools attrs (fun a => runAll (body a)) l = .ok rows) :
    ∀ row ∈ rows, (Node.group row).FitsIn platforms := by
  intro row hrow
  obtain ⟨a, ha, hrow⟩ := exists_of_mem_mapM_eq_ok hrows hrow
  obtain ⟨children, hchildren, rfl⟩ := map_eq_ok.mp hrow
  exact Node.fitsIn_group (hattrs a ha) (h a ha children hchildren)

theorem fitsIn_linkRow {table : Attrs} (dri : Dri) :
    (Node.group (linkRow table dri)).FitsIn table.platforms := by
  have hself := OrderedSet.subset_refl table.platforms
  refine Node.fitsIn_group hself (List.forall_mem_singleton.mpr ?_)
  refine Node.fitsIn_driLink dri hself (List.forall_mem_singleton.mpr ?_)
  exact Node.fitsIn_text _ hself

theorem forall_mem_framed {P : Node → Prop} {framing : Framing} {attrs : Attrs}
    (htext : ∀ s, P (.text s attrs)) {made : List (List Node)}
    (hmade : ∀ nodes ∈ made, ∀ node ∈ nodes, P node) :
    ∀ node ∈ framed framing attrs made, P node := by
  have hframe (s : String) : ∀ node ∈ frame s attrs, P node := by
    unfold frame
    split
    · exact List.forall_mem_nil P
    · exact List.forall_mem_singleton.mpr (htext s)
  cases made with
  | nil => exact List.forall_mem_nil P
  | cons first rest =>
      rw [List.forall_mem_cons] at hmade
      have hrest : ∀ node ∈ rest.flatMap (.text framing.separator attrs :: ·), P node := by
        intro node hnode
        obtain ⟨nodes, hnodes, hnode⟩ := List.mem_flatMap.mp hnode
        rcases List.mem_cons.mp hnode with rfl | hnode
        · exact htext _
        · exact hmade.2 nodes hnodes node hnode
      simp only [framed, List.forall_mem_append]
      exact ⟨hframe _, hmade.1, hrest, hframe _⟩

theorem fitsIn_framed {framing : Framing} {attrs : Attrs}
    (hattrs : attrs.platforms ⊆ scope.platforms) {bodies : List (List Step)}
    (h : ∀ body ∈ bodies, Sound tools scope body) {made : List (List Node)}
    (hmade : (bodies.mapM fun body => (runAll body).nodes tools scope) = .ok made) :
    ∀ node ∈ framed framing attrs made, node.FitsIn scope.platforms := by
  apply forall_mem_framed
  · intro s
    exact Node.fitsIn_text s hattrs
  · intro nodes hnodes
    obtain ⟨body, hbody, hnodes⟩ := exists_of_mem_mapM_eq_ok hmade hnodes
    exact h body hbody nodes hnodes

theorem fitsIn_platformText {values : PlatformDependent String} {shown : PlatformSet}
    {transform : String → String}
    (h : ∀ entry ∈ values, isShown shown transform entry = true → entry.1 ∈ scope.platforms)
    {nodes : List Node}
    (hrun : (Build.platformText values shown transform).nodes tools scope = .ok nodes) :
    ∀ node ∈ nodes, node.FitsIn scope.platforms := by
  rw [nodes_platformText] at hrun
  obtain rfl := Except.ok.inj hrun
  rw [List.forall_mem_map]
  intro entry hentry
  obtain ⟨hmem, hshown⟩ := List.mem_filter.mp hentry
  apply Node.fitsIn_text
  intro platform hplatform
  obtain rfl := List.mem_singleton.mp hplatform
  exact h entry hmem hshown

theorem fitsIn_hint {params : Params}
    (hparams : (params.resolve scope .main).platforms ⊆ scope.platforms) {body : List Step}
    (hbody : Sound tools (params.resolve scope .main).toScope body) {nodes : List Node}
    (hrun : (hint params body).run.nodes tools scope = .ok nodes) :
    ∀ node ∈ nodes, node.FitsIn scope.platforms := by
  rw [nodes_run_hint] at hrun
  refine hbody.wrap ?_ hrun
  intro children hchildren
  have hinner := Node.fitsIn_platformHinted (Node.fitsIn_group hparams hchildren)
  rw [Node.platforms, Node.attrs_group] at hinner
  exact hinner

theorem fitsIn_made? {group : Attrs} {call : InstanceCall (List Step)}
    (hwrites : ∀ write ∈ call.writes,
      (InstanceCall.writeAttrs (call.attrs group) write).platforms ⊆ call.platforms ∧
        Sound tools (InstanceCall.writeAttrs (call.attrs group) write).toScope write.body)
    {variant : Instance} (h : call.compiled.made? tools group = .ok (some variant)) :
    (Node.divergentInstance variant).FitsIn call.platforms := by
  obtain ⟨written, hwritten, h⟩ := bind_eq_ok.mp h
  have hinstance := InstanceCall.settle_eq_some_iff.mp h
  rw [InstanceCall.written_compiled] at hwritten
  have hfits : ∀ write ∈ written, (Node.group write.2).FitsIn call.platforms := by
    intro pair hpair
    obtain ⟨write, hwrite, hpair⟩ := exists_of_mem_mapM_eq_ok hwritten hpair
    obtain ⟨children, hchildren, rfl⟩ := map_eq_ok.mp hpair
    obtain ⟨hsubset, hsound⟩ := hwrites write hwrite
    exact Node.fitsIn_group hsubset (hsound children hchildren)
  obtain ⟨hbefore, hdivergent, hafter⟩ :=
    Slots.forall_ofWrites (P := fun group => (Node.group group).FitsIn call.platforms) hfits
  unfold Slots.toInstance at hinstance
  split at hinstance
  · rename_i divergent heq
    obtain rfl := Except.ok.inj hinstance
    rw [heq] at hdivergent
    apply Node.fitsIn_divergentInstance (OrderedSet.subset_refl call.platforms)
    rw [InstanceOf.slots, List.forall_mem_append, List.forall_mem_cons]
    refine ⟨?_, hdivergent divergent rfl, ?_⟩
    · intro slot hslot
      exact hbefore slot (Option.mem_toList.mp hslot)
    · intro slot hslot
      exact hafter slot (Option.mem_toList.mp hslot)
  · cases hinstance

theorem fitsIn_divergentGroup {own : Attrs} {instances : List Instance}
    (h : ∀ variant ∈ instances, (Node.divergentInstance variant).FitsIn platforms) :
    (Node.divergentGroup instances { own with platforms := platformsOf instances }).FitsIn
      platforms := by
  apply Node.fitsIn_divergentGroup
  · intro platform hplatform
    obtain ⟨variant, hvariant, hplatform⟩ := OrderedSet.mem_ofList_flatMap.mp hplatform
    have hsubset := (h variant hvariant).1
    rw [Node.platforms, Node.attrs_divergentInstance] at hsubset
    exact hsubset platform hplatform
  · intro variant hvariant
    refine ⟨?_, (h variant hvariant).2⟩
    rw [Node.platforms, Node.attrs_divergentInstance]
    intro platform hplatform
    exact OrderedSet.mem_ofList_flatMap.mpr ⟨variant, hvariant, hplatform⟩

/-- What one step makes fits in its scope if it is given nothing wider and the programs that it
runs make what fits in theirs. -/
theorem fitsIn_run (htools : tools.Faithful) {step : Step} (hfits : step.Fits tools scope)
    (hinner : ∀ body ∈ step.inner scope, Sound tools body.1 body.2) {nodes : List Node}
    (hrun : step.run.nodes tools scope = .ok nodes) :
    ∀ node ∈ nodes, node.FitsIn scope.platforms := by
  have hnone := List.forall_mem_nil (Node.FitsIn scope.platforms)
  have hone {node : Node} {platforms : PlatformSet} (h : node.FitsIn platforms) :
      ∀ n ∈ [node], n.FitsIn platforms := List.forall_mem_singleton.mpr h
  have hself (platforms : PlatformSet) := OrderedSet.subset_refl platforms
  cases step with
  | text s params =>
      obtain rfl := Except.ok.inj hrun
      exact hone (Node.fitsIn_text s (hfits.resolve_subset .main))
  | header level params body =>
      rw [nodes_run_header] at hrun
      refine (hinner _ List.mem_cons_self).wrap ?_ hrun
      intro children hchildren
      exact Node.fitsIn_header level (hfits.resolve_subset .main) hchildren
  | linkTable dris params =>
      rw [run, nodes_linkTable] at hrun
      obtain rfl := Except.ok.inj hrun
      apply hone
      apply Node.fitsIn_table (hfits.resolve_subset .main)
      rw [List.forall_mem_map]
      exact fun dri _ => fitsIn_linkRow dri
  | table params body rows =>
      rw [inner, List.forall_mem_cons, List.forall_mem_map] at hinner
      rw [nodes_run_table] at hrun
      obtain ⟨before, hbefore, hrun⟩ := bind_eq_ok.mp hrun
      obtain ⟨groups, hgroups, hrun⟩ := bind_eq_ok.mp hrun
      obtain rfl := Except.ok.inj hrun
      have hrows := fitsIn_rowGroups hinner.2 hfits.2 hgroups
      refine List.forall_mem_append.mpr ⟨hinner.1 before hbefore, ?_⟩
      exact hone (Node.fitsIn_table (hfits.1.resolve_subset .main) hrows)
  | block name level params renderWhenEmpty elements =>
      rw [inner, List.forall_mem_map] at hinner
      rw [nodes_run_block] at hrun
      split at hrun
      · obtain rfl := Except.ok.inj hrun
        exact hnone
      · obtain ⟨groups, hgroups, rfl⟩ := map_eq_ok.mp hrun
        have hrows := fitsIn_rowGroups hinner hfits.2 hgroups
        refine List.forall_mem_cons.mpr ⟨?_, hone ?_⟩
        · exact Node.fitsIn_header level (hself _) (hone (Node.fitsIn_text name (hself _)))
        · exact Node.fitsIn_table (hfits.1.resolve_subset .main) hrows
  | list framing params bodies =>
      rw [inner, List.forall_mem_map] at hinner
      rw [nodes_run_list] at hrun
      obtain ⟨made, hmade, rfl⟩ := map_eq_ok.mp hrun
      exact fitsIn_framed (hfits.resolve_subset .main) hinner hmade
  | listDefault bodies =>
      rw [inner, List.forall_mem_map] at hinner
      rw [nodes_run_listDefault] at hrun
      obtain ⟨made, hmade, rfl⟩ := map_eq_ok.mp hrun
      exact fitsIn_framed (hself _) hinner hmade
  | link s address params =>
      obtain rfl := Except.ok.inj hrun
      have hlabel := hone (Node.fitsIn_text s (hself (params.resolve scope .main).platforms))
      exact hone (Node.fitsIn_driLink address (hfits.resolve_subset .main) hlabel)
  | linkContent address params body =>
      rw [nodes_run_linkContent] at hrun
      refine (hinner _ List.mem_cons_self).wrap ?_ hrun
      intro children hchildren
      exact Node.fitsIn_driLink address (hfits.resolve_subset .main) hchildren
  | resolvedLink s address params =>
      obtain rfl := Except.ok.inj hrun
      have hlabel := hone (Node.fitsIn_text s (hself (params.resolve scope .main).platforms))
      exact hone (Node.fitsIn_resolvedLink address (hfits.resolve_subset .main) hlabel)
  | comment tag params =>
      rw [run, nodes_comment] at hrun
      obtain rfl := Except.ok.inj hrun
      apply hone
      apply Node.fitsIn_group (hfits.resolve_subset .comment)
      intro child hchild
      exact (htools tag _ _ child hchild).fitsIn
  | group params body =>
      rw [nodes_run_group] at hrun
      refine (hinner _ List.mem_cons_self).wrap ?_ hrun
      intro children hchildren
      exact Node.fitsIn_group (hfits.resolve_subset .main) hchildren
  | buildGroup params body append =>
      rw [nodes_run_buildGroup] at hrun
      cases append with
      | true =>
          refine (hinner _ List.mem_cons_self).wrap ?_ hrun
          intro children hchildren
          exact Node.fitsIn_group (hfits.resolve_subset .main) hchildren
      | false =>
          obtain ⟨children, _, rfl⟩ := map_eq_ok.mp hrun
          exact hnone
  | hint params body =>
      exact fitsIn_hint (hfits.resolve_subset .main) (hinner _ List.mem_cons_self) hrun
  | hintFor dri body => exact fitsIn_hint (hself _) (hinner _ List.mem_cons_self) hrun
  | platformText values platforms transform => exact fitsIn_platformText hfits hrun
  | platformTextAll values transform => exact fitsIn_platformText hfits hrun
  | extend nodes =>
      obtain rfl := Except.ok.inj hrun
      exact hfits
  | signature documentable =>
      obtain rfl := Except.ok.inj hrun
      exact hone hfits
  | askSignature documentable =>
      obtain rfl := Except.ok.inj hrun
      exact hnone
  | contentFor dris platforms params body =>
      rw [nodes_run_contentFor] at hrun
      obtain ⟨root, hroot, rfl⟩ := map_eq_ok.mp hrun
      exact hone (hfits root hroot)
  | askDefaults =>
      obtain rfl := Except.ok.inj hrun
      exact hnone
  | divergentGroup params calls =>
      rw [nodes_run_divergentGroup] at hrun
      obtain ⟨found, hfound, rfl⟩ := map_eq_ok.mp hrun
      apply hone
      apply fitsIn_divergentGroup
      intro variant hvariant
      obtain ⟨variant?, hmem, hvariant⟩ := List.mem_flatMap.mp hvariant
      obtain rfl := Option.mem_toList.mp hvariant
      obtain ⟨call, hcall, hmade⟩ := exists_of_mem_mapM_eq_ok hfound hmem
      obtain ⟨hplatforms, hparams⟩ := hfits call hcall
      refine (fitsIn_made? ?_ hmade).mono hplatforms
      intro write hwrite
      have hwriteParams : write.params.Narrow (call.attrs (params.resolve scope .main)).toScope :=
        hparams write hwrite
      refine ⟨hwriteParams.resolve_subset .main, ?_⟩
      exact hinner _ (List.mem_flatMap.mpr ⟨call, hcall, List.mem_map_of_mem hwrite⟩)

theorem Narrows.sound (htools : tools.Faithful) {program : List Step}
    (h : Narrows tools scope program) : Sound tools scope program := by
  induction h with
  | nil scope =>
      intro nodes hrun
      obtain rfl := Except.ok.inj hrun
      exact List.forall_mem_nil _
  | cons hfits _ _ hinner hrest =>
      intro nodes hrun
      rw [nodes_runAll_cons] at hrun
      obtain ⟨front, hfront, hrun⟩ := bind_eq_ok.mp hrun
      obtain ⟨back, hback, hrun⟩ := bind_eq_ok.mp hrun
      obtain rfl := Except.ok.inj hrun
      exact List.forall_mem_append.mpr
        ⟨fitsIn_run htools hfits hinner hfront, hrest back hback⟩

end Step

theorem Entry.narrowing_build {tools : Toolkit} (htools : tools.Faithful) {entry : Entry}
    {program : List Step} (h : Step.Narrows tools entry.attrs.toScope program) {root : Group}
    (hroot : entry.build tools program = .ok root) : (Node.group root).Narrowing := by
  rw [build_eq, map_eq_ok] at hroot
  obtain ⟨children, hchildren, rfl⟩ := hroot
  have hfits := h.sound htools children hchildren
  exact (Node.fitsIn_group (OrderedSet.subset_refl entry.attrs.platforms) hfits).2

end DocPages
