import DocPages.Proofs.Build.Nesting
import DocPages.Proofs.Content.Erasure
import DocPages.PropertyKind
import DocPages.Signature

/-!
Each value of a scope flows only into its own field.

Two scopes that agree apart from one value make trees that agree once this value is erased from
them. The step lemma is `run_agree`, whose hypothesis is the same of the bodies of the step; it
carries over to programs by `Step.induction`.
-/

namespace DocPages

section

variable [PropertyFamily] {field : ScopeField}

theorem Params.resolve_erase_eq {scope other : Scope}
    (h : scope.erase field = other.erase field) (params : Params) (kind : Kind) :
    (params.resolve scope kind).erase field = (params.resolve other kind).erase field := by
  cases field <;>
    simp_all only [Scope.erase, Attrs.erase, Params.resolve, Scope.mk.injEq, and_true, true_and]

theorem Scope.attrs_erase_eq {scope other : Scope} (h : scope.erase field = other.erase field)
    (kind : Kind) :
    ({ toScope := scope, kind } : Attrs).erase field =
      ({ toScope := other, kind } : Attrs).erase field :=
  congrArg (Attrs.mk · kind) h

theorem withPlatforms_erase_eq {a b : Attrs} (h : a.erase field = b.erase field)
    {platforms platforms' : PlatformSet}
    (hplatforms : PlatformSet.erase field platforms = PlatformSet.erase field platforms') :
    ({ a with platforms } : Attrs).erase field =
      ({ b with platforms := platforms' } : Attrs).erase field := by
  cases field <;>
    simp_all only [Scope.erase, PlatformSet.erase, Attrs.erase, Attrs.mk.injEq, Scope.mk.injEq,
      and_true, true_and]

theorem rowAttrs_erase_eq {table other : Attrs} (h : table.erase field = other.erase field)
    {platforms platforms' : PlatformSet}
    (hplatforms : PlatformSet.erase field platforms = PlatformSet.erase field platforms')
    (dri : Dri) :
    (Build.rowAttrs table dri platforms).erase field =
      (Build.rowAttrs other dri platforms').erase field := by
  cases field <;>
    simp_all only [Scope.erase, PlatformSet.erase, Attrs.erase, Build.rowAttrs, Attrs.mk.injEq,
      Scope.mk.injEq, and_true, true_and]

theorem eraseGroup_linkRow_eq {table other : Attrs} (h : table.erase field = other.erase field)
    (dri : Dri) :
    eraseGroup field (Build.linkRow table dri) = eraseGroup field (Build.linkRow other dri) := by
  have hrow := rowAttrs_erase_eq h (platforms_erase_eq (toScope_erase_eq h)) dri
  have hlink := Scope.attrs_erase_eq (toScope_erase_eq hrow) .main
  simp only [Build.linkRow, eraseGroup, eraseAll_cons, eraseAll_nil, Node.erase_driLink,
    Node.erase_text, hrow, hlink]

theorem eraseAll_frame (s : String) (attrs : Attrs) :
    eraseAll field (Build.frame s attrs) = Build.frame s (attrs.erase field) := by
  unfold Build.frame
  split
  · rfl
  · rw [eraseAll_cons, Node.erase_text, eraseAll_nil]

theorem eraseAll_framed (framing : Framing) (attrs : Attrs) (made : List (List Node)) :
    eraseAll field (Build.framed framing attrs made) =
      Build.framed framing (attrs.erase field) (made.map (eraseAll field)) := by
  cases made with
  | nil => rfl
  | cons first rest =>
      have hrest : eraseAll field (rest.flatMap (.text framing.separator attrs :: ·)) =
          (rest.map (eraseAll field)).flatMap
            (.text framing.separator (attrs.erase field) :: ·) := by
        rw [eraseAll, List.map_flatMap, List.flatMap_map]
        exact List.flatMap_congr fun nodes _ =>
          congrArg (· :: eraseAll field nodes) (Node.erase_text framing.separator attrs)
      simp only [Build.framed, eraseAll_append, eraseAll_frame, hrest, List.map_cons]

theorem platformsOf_erase_eq {instances others : List Instance}
    (h : instances.map (eraseInstance field) = others.map (eraseInstance field)) :
    PlatformSet.erase field (platformsOf instances) =
      PlatformSet.erase field (platformsOf others) := by
  have hplatforms := congrArg (List.map fun variant => variant.attrs.platforms) h
  rw [List.map_map, List.map_map] at hplatforms
  have hof (l : List Instance) : platformsOf l =
      Keyed.ofList ((l.map fun variant => variant.attrs.platforms).flatMap Keyed.toList) := by
    rw [platformsOf, List.flatMap_map]
  cases field with
  | platforms => rfl
  | _ =>
      rw [hof, hof]
      exact congrArg (fun l => (Keyed.ofList (l.flatMap Keyed.toList) : PlatformSet)) hplatforms

namespace Slots

def erase (field : ScopeField) (slots : Slots) : Slots :=
  ⟨slots.before.map (eraseGroup field), slots.divergent.map (eraseGroup field),
    slots.after.map (eraseGroup field)⟩

theorem erase_fill (slots : Slots) (slot : Slot) (group : Group) :
    (slots.fill slot group).erase field =
      (slots.erase field).fill slot (eraseGroup field group) := by
  cases slot <;> rfl

theorem erase_ofWrites (written : List (Slot × Group)) :
    (ofWrites written).erase field =
      ofWrites (written.map fun (slot, group) => (slot, eraseGroup field group)) := by
  rw [ofWrites, ofWrites, List.foldl_map]
  exact (List.foldl_hom (erase field) fun slots write =>
    (erase_fill slots write.1 write.2).symm).symm

theorem toInstance_erase_eq {slots other : Slots} (h : slots.erase field = other.erase field)
    {own attrs : Attrs} (hattrs : own.erase field = attrs.erase field)
    (hdris : own.dris = attrs.dris) :
    eraseInstance field <$> slots.toInstance own =
      eraseInstance field <$> other.toInstance attrs := by
  obtain ⟨before, divergent, after⟩ := slots
  obtain ⟨before', divergent', after'⟩ := other
  obtain ⟨hbefore, hdivergent, hafter⟩ := Slots.mk.inj h
  cases divergent with
  | none =>
      cases divergent' with
      | none => exact congrArg (fun dris => Except.error (MissingDivergent.mk dris)) hdris
      | some group => cases hdivergent
  | some group =>
      cases divergent' with
      | none => cases hdivergent
      | some group' =>
          have hgroup := Option.some.inj hdivergent
          exact congrArg Except.ok (InstanceOf.ext hbefore hgroup hafter hattrs)

end Slots

namespace Step

variable {tools : Toolkit}

/-- Run in scopes that agree apart from one value, a program makes trees that agree apart from it,
or ends with the same error. -/
def Indifferent (field : ScopeField) (tools : Toolkit) (program : List Step) : Prop :=
  ∀ scope other : Scope, scope.erase field = other.erase field →
    eraseAll field <$> (runAll program).nodes tools scope =
      eraseAll field <$> (runAll program).nodes tools other

theorem Indifferent.wrap {body : List Step} (h : Indifferent field tools body) {own attrs : Attrs}
    (hattrs : own.erase field = attrs.erase field) (node : Attrs → List Node → List Node)
    (hnode : ∀ children children', eraseAll field children = eraseAll field children' →
      eraseAll field (node own children) = eraseAll field (node attrs children')) :
    eraseAll field <$> (node own <$> (runAll body).nodes tools own.toScope) =
      eraseAll field <$> (node attrs <$> (runAll body).nodes tools attrs.toScope) := by
  rw [Functor.map_map, Functor.map_map]
  exact map_congr_of_view (h _ _ (toScope_erase_eq hattrs)) hnode

theorem Indifferent.mapM {bodies : List (List Step)}
    (h : ∀ body ∈ bodies, Indifferent field tools body) {scope other : Scope}
    (hscope : scope.erase field = other.erase field) :
    List.map (eraseAll field) <$> (bodies.mapM fun body => (runAll body).nodes tools scope) =
      List.map (eraseAll field) <$> (bodies.mapM fun body => (runAll body).nodes tools other) := by
  rw [← mapM_map_result, ← mapM_map_result]
  exact mapM_congr fun body hbody => h body hbody scope other hscope

theorem rowGroups_agree {α : Type} {l : List α} {body : α → List Step}
    (h : ∀ a ∈ l, Indifferent field tools (body a)) {attrs attrs' : α → Attrs}
    (hattrs : ∀ a, (attrs a).erase field = (attrs' a).erase field) :
    List.map (eraseGroup field) <$> Build.rowGroups tools attrs (fun a => runAll (body a)) l =
      List.map (eraseGroup field) <$>
        Build.rowGroups tools attrs' (fun a => runAll (body a)) l := by
  rw [Build.rowGroups, Build.rowGroups, ← mapM_map_result, ← mapM_map_result]
  apply mapM_congr
  intro a ha
  rw [Functor.map_map, Functor.map_map]
  apply map_congr_of_view (h a ha _ _ (toScope_erase_eq (hattrs a)))
  intro children children' hchildren
  exact congrArg₂ GroupOf.mk hchildren (hattrs a)

theorem settle_agree {x y : Except MissingDivergent Instance}
    (h : eraseInstance field <$> x = eraseInstance field <$> y) (required : Bool) :
    Option.map (eraseInstance field) <$> InstanceCall.settle required x =
      Option.map (eraseInstance field) <$> InstanceCall.settle required y := by
  cases x with
  | error missing =>
      cases y with
      | error missing' => rw [Except.error.inj h]
      | ok variant => cases h
  | ok variant =>
      cases y with
      | error missing => cases h
      | ok variant' => exact congrArg (fun found => Except.ok (some found)) (Except.ok.inj h)

theorem made?_agree {call : InstanceCall (List Step)}
    (h : ∀ write ∈ call.writes, Indifferent field tools write.body) {group other : Attrs}
    (hgroup : group.erase field = other.erase field) :
    Option.map (eraseInstance field) <$> call.compiled.made? tools group =
      Option.map (eraseInstance field) <$> call.compiled.made? tools other := by
  have hattrs : (call.attrs group).erase field = (call.attrs other).erase field := by
    rw [InstanceCall.attrs, InstanceCall.attrs, kind_eq_of_erase_eq hgroup]
    exact Params.resolve_erase_eq (toScope_erase_eq hgroup) _ _
  have hwritten :
      List.map (fun (slot, group) => (slot, eraseGroup field group)) <$>
          call.compiled.written tools group =
        List.map (fun (slot, group) => (slot, eraseGroup field group)) <$>
          call.compiled.written tools other := by
    rw [InstanceCall.written_compiled, InstanceCall.written_compiled, ← mapM_map_result,
      ← mapM_map_result]
    apply mapM_congr
    intro write hwrite
    have hwriteAttrs := Params.resolve_erase_eq (toScope_erase_eq hattrs) write.params .main
    rw [Functor.map_map, Functor.map_map]
    apply map_congr_of_view (h write hwrite _ _ (toScope_erase_eq hwriteAttrs))
    intro children children' hchildren
    exact congrArg (write.slot, ·) (congrArg₂ GroupOf.mk hchildren hwriteAttrs)
  rw [InstanceCall.made?, InstanceCall.made?, map_bind, map_bind]
  apply bind_congr_of_view hwritten
  intro written written' hagree
  apply settle_agree
  apply Slots.toInstance_erase_eq _ hattrs rfl
  rw [Slots.erase_ofWrites, Slots.erase_ofWrites, hagree]

theorem hint_agree {body : List Step} (h : Indifferent field tools body) (params : Params)
    {scope other : Scope} (hscope : scope.erase field = other.erase field) :
    eraseAll field <$> (hint params body).run.nodes tools scope =
      eraseAll field <$> (hint params body).run.nodes tools other := by
  have hattrs := params.resolve_erase_eq hscope .main
  have hplatforms := platforms_erase_eq (toScope_erase_eq hattrs)
  rw [nodes_run_hint, nodes_run_hint]
  apply h.wrap hattrs fun attrs children =>
    [.platformHinted (.group ⟨children, attrs⟩) attrs.platforms]
  intro children children' hchildren
  simp only [eraseAll_cons, eraseAll_nil, Node.erase_platformHinted, Node.erase_group, eraseGroup,
    hchildren, hattrs, hplatforms]

theorem platformText_agree (values : PlatformDependent String) (platforms : PlatformSet)
    (transform : String → String) {scope other : Scope}
    (hscope : scope.erase field = other.erase field) :
    eraseAll field <$> (Build.platformText values platforms transform).nodes tools scope =
      eraseAll field <$> (Build.platformText values platforms transform).nodes tools other := by
  rw [Build.nodes_platformText, Build.nodes_platformText, map_pure, map_pure]
  congr 1
  simp only [eraseAll, List.map_map]
  apply List.map_congr_left
  intro entry _
  have hattrs := (Params.ofPlatform entry.1).resolve_erase_eq hscope .main
  simp only [Function.comp_apply, Node.erase_text, hattrs]

theorem flatMap_toList_map (found : List (Option Instance)) :
    (found.map (Option.map (eraseInstance field))).flatMap Option.toList =
      (found.flatMap Option.toList).map (eraseInstance field) := by
  rw [List.map_flatMap, List.flatMap_map]
  exact List.flatMap_congr fun variant? _ => Option.toList_map

theorem divergentGroup_agree {instances others : List Instance}
    (h : instances.map (eraseInstance field) = others.map (eraseInstance field))
    {attrs attrs' : Attrs} (hattrs : attrs.erase field = attrs'.erase field) :
    (Node.divergentGroup instances { attrs with platforms := platformsOf instances }).erase field =
      (Node.divergentGroup others { attrs' with platforms := platformsOf others }).erase field := by
  rw [Node.erase_divergentGroup, Node.erase_divergentGroup, h,
    withPlatforms_erase_eq hattrs (platformsOf_erase_eq h)]

/-- Running one step shows a value of the scope nowhere but in the field of that value, if the
programs it is given do so. -/
theorem run_agree (htools : tools.comment = DocTag.toContent) {step : Step}
    (h : ∀ body ∈ step.bodies, Indifferent field tools body) {scope other : Scope}
    (hscope : scope.erase field = other.erase field) :
    eraseAll field <$> step.run.nodes tools scope =
      eraseAll field <$> step.run.nodes tools other := by
  have hattrs (params : Params) :
      (params.resolve scope .main).erase field = (params.resolve other .main).erase field :=
    params.resolve_erase_eq hscope .main
  have hdefault := Scope.attrs_erase_eq hscope .main
  cases step with
  | text s params =>
      simp only [run, Build.nodes_text, map_pure, eraseAll_cons, eraseAll_nil, Node.erase_text,
        hattrs params]
  | header level params body =>
      rw [nodes_run_header, nodes_run_header]
      apply (h body List.mem_cons_self).wrap (hattrs params)
        fun attrs children => [.header level ⟨children, attrs⟩]
      intro children children' hchildren
      simp only [eraseAll_cons, eraseAll_nil, Node.erase_header, eraseGroup, hchildren,
        hattrs params]
  | linkTable dris params =>
      have hrows : (dris.map (Build.linkRow (params.resolve scope .main))).map (eraseGroup field) =
          (dris.map (Build.linkRow (params.resolve other .main))).map (eraseGroup field) := by
        rw [List.map_map, List.map_map]
        exact List.map_congr_left fun dri _ => eraseGroup_linkRow_eq (hattrs params) dri
      simp only [run, Build.nodes_linkTable, map_pure, eraseAll_cons, eraseAll_nil,
        Node.erase_table, hrows, hattrs params]
  | table params body rows =>
      rw [bodies, List.forall_mem_cons, List.forall_mem_map] at h
      rw [nodes_run_table, nodes_run_table, map_bind, map_bind]
      apply bind_congr_of_view (h.1 scope other hscope)
      intro before before' hbefore
      rw [bind_pure_comp, bind_pure_comp, Functor.map_map, Functor.map_map]
      apply map_congr_of_view (rowGroups_agree h.2 fun row => hattrs row.1)
      intro groups groups' hgroups
      simp only [eraseAll_append, eraseAll_cons, eraseAll_nil, Node.erase_table, hbefore, hgroups,
        hattrs params]
  | block name level params renderWhenEmpty elements =>
      rw [bodies, List.forall_mem_map] at h
      rw [nodes_run_block, nodes_run_block]
      split
      · rfl
      · have helements (element : Documentable × List Step) :
            (Build.elementAttrs (params.resolve scope .main) element).erase field =
              (Build.elementAttrs (params.resolve other .main) element).erase field :=
          rowAttrs_erase_eq (hattrs params) rfl element.1.dri
        rw [Functor.map_map, Functor.map_map]
        apply map_congr_of_view (rowGroups_agree h helements)
        intro groups groups' hgroups
        simp only [eraseAll_cons, eraseAll_nil, Node.erase_header, Node.erase_table,
          Node.erase_text, eraseGroup, hgroups, hdefault, hattrs params]
  | list framing params bodies =>
      rw [nodes_run_list, nodes_run_list, Functor.map_map, Functor.map_map]
      apply map_congr_of_view (Indifferent.mapM h hscope)
      intro made made' hmade
      rw [eraseAll_framed, eraseAll_framed, hmade, hattrs params]
  | listDefault bodies =>
      rw [nodes_run_listDefault, nodes_run_listDefault, Functor.map_map, Functor.map_map]
      apply map_congr_of_view (Indifferent.mapM h hscope)
      intro made made' hmade
      rw [eraseAll_framed, eraseAll_framed, hmade, hdefault]
  | link s address params =>
      simp only [run, Build.nodes_link, map_pure, eraseAll_cons, eraseAll_nil, Node.erase_driLink,
        Node.erase_text, hattrs params]
  | linkContent address params body =>
      rw [nodes_run_linkContent, nodes_run_linkContent]
      apply (h body List.mem_cons_self).wrap (hattrs params)
        fun attrs children => [.driLink children address attrs]
      intro children children' hchildren
      simp only [eraseAll_cons, eraseAll_nil, Node.erase_driLink, hchildren, hattrs params]
  | resolvedLink s address params =>
      simp only [run, Build.nodes_resolvedLink, map_pure, eraseAll_cons, eraseAll_nil,
        Node.erase_resolvedLink, Node.erase_text, hattrs params]
  | comment tag params =>
      have hcomment := params.resolve_erase_eq hscope .comment
      have hcontent := DocTag.eraseAll_toContent_eq hcomment tag
      simp only [run, Build.nodes_comment, htools, map_pure, eraseAll_cons, eraseAll_nil,
        Node.erase_group, eraseGroup, hcontent, hcomment]
  | group params body =>
      rw [nodes_run_group, nodes_run_group]
      apply (h body List.mem_cons_self).wrap (hattrs params)
        fun attrs children => [.group ⟨children, attrs⟩]
      intro children children' hchildren
      simp only [eraseAll_cons, eraseAll_nil, Node.erase_group, eraseGroup, hchildren,
        hattrs params]
  | buildGroup params body append =>
      rw [nodes_run_buildGroup, nodes_run_buildGroup]
      apply (h body List.mem_cons_self).wrap (hattrs params)
        fun attrs children => if append then [.group ⟨children, attrs⟩] else []
      intro children children' hchildren
      split
      · simp only [eraseAll_cons, eraseAll_nil, Node.erase_group, eraseGroup, hchildren,
          hattrs params]
      · rfl
  | hint params body =>
      exact hint_agree (h body List.mem_cons_self) params hscope
  | hintFor dri body =>
      exact hint_agree (h body List.mem_cons_self) (.ofDri dri) hscope
  | platformText values platforms transform =>
      exact platformText_agree values platforms transform hscope
  | platformTextAll values transform =>
      exact platformText_agree values values.keys transform hscope
  | extend nodes => rfl
  | signature documentable => rfl
  | askSignature documentable => rfl
  | contentFor dris platforms params body =>
      rw [nodes_run_contentFor, nodes_run_contentFor]
  | askDefaults => rfl
  | divergentGroup params calls =>
      have hcalls : List.map (Option.map (eraseInstance field)) <$>
            (calls.mapM fun call => call.compiled.made? tools (params.resolve scope .main)) =
          List.map (Option.map (eraseInstance field)) <$>
            (calls.mapM fun call => call.compiled.made? tools (params.resolve other .main)) := by
        rw [← mapM_map_result, ← mapM_map_result]
        apply mapM_congr
        intro call hcall
        apply made?_agree _ (hattrs params)
        intro write hwrite
        exact h write.body (List.mem_flatMap.mpr ⟨call, hcall, List.mem_map_of_mem hwrite⟩)
      rw [nodes_run_divergentGroup, nodes_run_divergentGroup, Functor.map_map, Functor.map_map]
      apply map_congr_of_view hcalls
      intro found found' hfound
      have hinstances := congrArg (List.flatMap Option.toList) hfound
      rw [flatMap_toList_map, flatMap_toList_map] at hinstances
      exact congrArg (fun node => [node]) (divergentGroup_agree hinstances (hattrs params))

theorem indifferent (htools : tools.comment = DocTag.toContent) (program : List Step) :
    Indifferent field tools program := by
  induction program using Step.induction with
  | nil => exact fun _ _ _ => rfl
  | cons step rest hbodies hrest =>
      intro scope other hscope
      rw [nodes_runAll_cons, nodes_runAll_cons, map_bind, map_bind]
      apply bind_congr_of_view (run_agree htools hbodies hscope)
      intro front front' hfront
      rw [bind_pure_comp, bind_pure_comp, Functor.map_map, Functor.map_map]
      apply map_congr_of_view (hrest scope other hscope)
      intro back back' hback
      rw [eraseAll_append, eraseAll_append, hfront, hback]

end Step

namespace Entry

/-- The inputs with one value taken out, whether it was given for itself or by the parameters. -/
def erase (field : ScopeField) (entry : Entry) : Entry :=
  match field with
  | .dris => { entry with dris := ∅, params := { entry.params with dris := none } }
  | .platforms =>
      { entry with platforms := ∅, params := { entry.params with platforms := none } }
  | .styles => { entry with params := { entry.params with styles := none } }
  | .extra => { entry with params := { entry.params with extra := none } }

theorem attrs_erase_eq {a b : Entry} (h : a.erase field = b.erase field) :
    a.attrs.erase field = b.attrs.erase field := by
  cases field <;>
    simp_all only [erase, attrs, Attrs.erase, Scope.erase, Params.resolve, Entry.mk.injEq,
      Params.mk.injEq, and_true, true_and]

theorem build_withKind (entry : Entry) (kind : Option Kind) (tools : Toolkit)
    (program : List Step) :
    { entry with params := { entry.params with kind } }.build tools program =
      (fun group => { group with attrs := { group.attrs with kind := kind.getD .main } }) <$>
        entry.build tools program := by
  rw [build_eq, build_eq, Functor.map_map]
  rfl

theorem eraseGroup_build_eq {a b : Entry} (h : a.erase field = b.erase field) {tools : Toolkit}
    (htools : tools.comment = DocTag.toContent) (program : List Step) :
    eraseGroup field <$> a.build tools program = eraseGroup field <$> b.build tools program := by
  have hattrs := attrs_erase_eq h
  rw [build_eq, build_eq, Functor.map_map, Functor.map_map]
  apply map_congr_of_view (Step.indifferent htools program _ _ (toScope_erase_eq hattrs))
  intro children children' hchildren
  exact congrArg₂ GroupOf.mk hchildren hattrs

theorem exists_innermost_build {entry : Entry} {levels : List Step.Level} {tools : Toolkit}
    {program : List Step} {root : Group}
    (h : entry.build tools (Step.nest levels program) = .ok root) :
    ∃ address inner, address.length = levels.length ∧ root.at? address = some inner ∧
      (Step.runAll program).nodes tools inner.attrs.toScope = .ok inner.children ∧
      inner.attrs.toScope = Step.innermostScope levels entry.attrs.toScope := by
  rw [build_eq, map_eq_ok] at h
  obtain ⟨children, hchildren, rfl⟩ := h
  exact Step.exists_innermost hchildren

/-- Inputs that differ in one value alone build trees that differ in the field of that value alone,
and the role among the inputs is the role of the outermost group alone. The innermost of nested
groups has each value from the last group that sets it, or else from the inputs. -/
theorem build_noninterference (signature : Documentable → Node) (listSeparator : String)
    (program : List Step) :
    let tools : Toolkit := ⟨DocTag.toContent, signature, listSeparator⟩
    (∀ (field : ScopeField) (a b : Entry), a.erase field = b.erase field →
      eraseGroup field <$> a.build tools program = eraseGroup field <$> b.build tools program) ∧
    (∀ (entry : Entry) (kind : Option Kind),
      { entry with params := { entry.params with kind } }.build tools program =
        (fun group => { group with attrs := { group.attrs with kind := kind.getD .main } }) <$>
          entry.build tools program) ∧
    ∀ (entry : Entry) (levels : List Step.Level) (root : Group),
      entry.build tools (Step.nest levels program) = .ok root →
      ∃ address inner, address.length = levels.length ∧ root.at? address = some inner ∧
        (Step.runAll program).nodes tools inner.attrs.toScope = .ok inner.children ∧
        inner.attrs.dris =
          (levels.reverse.findSome? (·.params.dris)).getD entry.attrs.dris ∧
        inner.attrs.platforms =
          (levels.reverse.findSome? (·.params.platforms)).getD entry.attrs.platforms ∧
        inner.attrs.styles =
          (levels.reverse.findSome? (·.params.styles)).getD entry.attrs.styles ∧
        inner.attrs.extra =
          (levels.reverse.findSome? (·.params.extra)).getD entry.attrs.extra := by
  intro tools
  refine ⟨?_, ?_, ?_⟩
  · intro field a b h
    exact eraseGroup_build_eq h rfl program
  · intro entry kind
    exact entry.build_withKind kind tools program
  · intro entry levels root h
    obtain ⟨address, inner, hlength, hat, hinner, hscope⟩ := exists_innermost_build h
    have hvalue {β : Type} (value : Scope → β) (given : Params → Option β)
        (h : ∀ params scope, value (params.resolve scope .main).toScope =
          (given params).getD (value scope)) :
        value inner.attrs.toScope =
          (levels.reverse.findSome? fun level => given level.params).getD
            (value entry.attrs.toScope) := by
      rw [hscope, Step.innermostScope_value value given h]
    exact ⟨address, inner, hlength, hat, hinner, hvalue _ Params.dris fun _ _ => rfl,
      hvalue _ Params.platforms fun _ _ => rfl, hvalue _ Params.styles fun _ _ => rfl,
      hvalue _ Params.extra fun _ _ => rfl⟩

end Entry

end

namespace Entry

theorem build_noninterference_bold :
    let tools : Toolkit := ⟨DocTag.toContent, Documentable.functionSignature, ", "⟩
    let jvm : PlatformData := ⟨"jvm", .jvm, []⟩
    let plain : Entry := ⟨∅, Keyed.singleton jvm, {}⟩
    let bold : Entry := { plain with params := { styles := some (Keyed.singleton .bold) } }
    let program : List Step :=
      [.comment (.element .italic [.text "see"]) {}, .hint {} [.link "T" .topLevel {}],
        .divergentGroup {} [⟨true, ∅, Keyed.singleton jvm, {}, [⟨.divergent, {}, []⟩]⟩]]
    let levels : List Step.Level :=
      [⟨[.text "first" {}], { styles := some (Keyed.singleton .italic) }, []⟩,
        ⟨[], { platforms := some ∅ }, [.askDefaults]⟩]
    plain.erase .styles = bold.erase .styles ∧
      eraseGroup .styles <$> plain.build tools program =
        eraseGroup .styles <$> bold.build tools program ∧
      ∃ root, plain.build tools (Step.nest levels program) = .ok root ∧
        ∃ address inner, address.length = 2 ∧ root.at? address = some inner ∧
          inner.attrs.styles = Keyed.singleton .italic := by
  intro tools jvm plain bold program levels
  obtain ⟨herase, _, hinnermost⟩ :=
    build_noninterference Documentable.functionSignature ", " program
  have hbuild : ∃ root, plain.build tools (Step.nest levels program) = .ok root := ⟨_, rfl⟩
  obtain ⟨root, hroot⟩ := hbuild
  obtain ⟨address, inner, hlength, hat, _, _, _, hstyles, _⟩ := hinnermost plain levels root hroot
  exact ⟨rfl, herase .styles plain bold rfl, root, hroot, address, inner, hlength, hat, hstyles⟩

end Entry

end DocPages
