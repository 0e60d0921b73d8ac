import DocPages.Proofs.Build.Divergent
import DocPages.PropertyKind
import DocPages.Signature

namespace DocPages

section

variable [PropertyFamily]

/-- The parameters with the styles and properties of a scope where they give none. -/
def Params.filled (params : Params) (scope : Scope) : Params :=
  { params with
    styles := some (params.styles.getD scope.styles)
    extra := some (params.extra.getD scope.extra) }

namespace Build

/-- Actions that are composed of the operations of a scope. -/
inductive Composed : {α : Type} → Build α → Prop
  | pure {α : Type} (a : α) : Composed (pure a)
  | bind {α β : Type} {build : Build α} {next : α → Build β} :
      Composed build → (∀ a, Composed (next a)) → Composed (build >>= next)
  | observe (observation : Observation) : Composed (liftM (Run.observe observation))
  | defaults : Composed defaults
  | extend (nodes : List Node) : Composed (extend nodes)
  | text (s : String) (params : Params) : Composed (text s params)
  | header (level : UInt8) (params : Params) {body : Build Unit} :
      Composed body → Composed (header level params body)
  | linkTable (dris : List Dri) (params : Params) : Composed (linkTable dris params)
  | table (params : Params) {operation : Build (List Group)} :
      Composed operation → Composed (table params operation)
  | block (name : String) (level : UInt8) (params : Params) (renderWhenEmpty : Bool)
      {elements : List (Documentable × Build Unit)} :
      (∀ element ∈ elements, Composed element.2) →
        Composed (block name level params renderWhenEmpty elements)
  | list {α : Type} {elements : List α} (framing : Framing) (params : Params)
      {operation : α → Build Unit} :
      (∀ a ∈ elements, Composed (operation a)) →
        Composed (list elements framing params operation)
  | listDefault {α : Type} {elements : List α} {operation : α → Build Unit} :
      (∀ a ∈ elements, Composed (operation a)) → Composed (listDefault elements operation)
  | link (s : String) (address : Dri) (params : Params) : Composed (link s address params)
  | linkContent (address : Dri) (params : Params) {body : Build Unit} :
      Composed body → Composed (linkContent address params body)
  | resolvedLink (s address : String) (params : Params) :
      Composed (resolvedLink s address params)
  | comment (tag : DocTag) (params : Params) : Composed (comment tag params)
  | signature (documentable : Documentable) : Composed (signature documentable)
  | buildGroup (params : Params) {body : Build Unit} :
      Composed body → Composed (buildGroup params body)
  | group (params : Params) {body : Build Unit} :
      Composed body → Composed (group params body)
  | hint (params : Params) {body : Build Unit} : Composed body → Composed (hint params body)
  | platformText {β : Type} (values : PlatformDependent β) (platforms : PlatformSet)
      (transform : β → String) : Composed (platformText values platforms transform)
  | platformTextAll {β : Type} (values : PlatformDependent β) (transform : β → String) :
      Composed (platformTextAll values transform)
  | contentFor (dris : DriSet) (platforms : PlatformSet) (params : Params) {body : Build Unit} :
      Composed body → Composed (liftM (Run.contentFor dris platforms params body))
  | divergentGroup (params : Params) {calls : List (InstanceCall (Build Unit))} :
      (∀ call ∈ calls, ∀ write ∈ call.writes, Composed write.body) →
        Composed (divergentGroup params calls)

theorem Composed.mapM {α β : Type} {f : α → Build β} {l : List α}
    (h : ∀ a ∈ l, Composed (f a)) : Composed (l.mapM f) := by
  induction l with
  | nil => exact .pure []
  | cons a rest ih =>
      rw [List.forall_mem_cons] at h
      rw [List.mapM_cons]
      exact h.1.bind fun _ => (ih h.2).bind fun _ => .pure _

theorem Composed.appendOnly {α : Type} {build : Build α} (h : Composed build) :
    AppendOnly build := by
  induction h with
  | pure a => exact appendOnly_pure a
  | bind _ _ hbuild hnext => exact hbuild.bind hnext
  | observe observation => exact appendOnly_lift (Run.settled_observe observation)
  | defaults => exact appendOnly_defaults
  | extend nodes => exact appendOnly_extend nodes
  | text s params => exact appendOnly_text s params
  | header level params _ hbody => exact appendOnly_header level params hbody
  | linkTable dris params => exact appendOnly_linkTable dris params
  | table params _ hoperation => exact appendOnly_table params hoperation
  | block name level params renderWhenEmpty _ helements =>
      exact appendOnly_block name level params renderWhenEmpty helements
  | list framing params _ hoperation => exact appendOnly_list framing params hoperation
  | listDefault _ hoperation => exact appendOnly_listDefault hoperation
  | link s address params => exact appendOnly_link s address params
  | linkContent address params _ hbody => exact appendOnly_linkContent address params hbody
  | resolvedLink s address params => exact appendOnly_resolvedLink s address params
  | comment tag params => exact appendOnly_comment tag params
  | signature documentable => exact appendOnly_signature documentable
  | buildGroup params _ hbody => exact appendOnly_buildGroup params hbody
  | group params _ hbody => exact appendOnly_group params hbody
  | hint params _ hbody => exact appendOnly_hint params hbody
  | platformText values platforms transform =>
      exact appendOnly_platformText values platforms transform
  | platformTextAll values transform =>
      exact appendOnly_platformText values values.keys transform
  | contentFor dris platforms params _ hbody =>
      exact appendOnly_lift (settled_inScope hbody _)
  | divergentGroup params _ hbody => exact appendOnly_divergentGroup params hbody

theorem runFrom_buildGroup {body : Build Unit} (h : AppendOnly body) (tools : Toolkit)
    (scope : Scope) (params : Params) (nodes : List Node) (log : List Observation) :
    (buildGroup params body).runFrom tools ⟨scope, nodes⟩ log =
      (·, ⟨scope, nodes⟩) <$> (Run.contentFor scope.dris scope.platforms
        (params.filled scope) body).value tools := by
  have hattrs : (params.filled scope).resolve
      { dris := scope.dris, platforms := scope.platforms } .main = params.resolve scope .main := rfl
  rw [appendOnly_buildGroup params h, yield_buildGroup tools scope params h, Run.contentFor, hattrs,
    value_inScope h]
  simp only [Functor.map_map, List.append_nil]

/-- Composed actions append to what is there, and what they append is told by the values of the
scope. In sequence they append one after the other, and a group built from one is the group of a
scope opened anew with the same values. -/
theorem append_compositional {p q : Build Unit} (hp : Composed p) (hq : Composed q)
    (tools : Toolkit) (scope : Scope) :
    (∀ nodes log, p.runFrom tools ⟨scope, nodes⟩ log =
      (fun added => ((), ⟨scope, nodes ++ added⟩)) <$> p.nodes tools scope) ∧
    ((do p; q).nodes tools scope = do
      let front ← p.nodes tools scope
      let back ← q.nodes tools scope
      return front ++ back) ∧
    ∀ params nodes log, (buildGroup params p).runFrom tools ⟨scope, nodes⟩ log =
      (·, ⟨scope, nodes⟩) <$> (Run.contentFor scope.dris scope.platforms
        (params.filled scope) p).value tools := by
  refine ⟨?_, ?_, ?_⟩
  · intro nodes log
    rw [hp.appendOnly, yield_eq_nodes, Functor.map_map]
  · exact nodes_seq hp.appendOnly hq.appendOnly tools scope
  · exact runFrom_buildGroup hp.appendOnly tools scope

/-- Lists the platforms of the scope, each name on its own platform alone. -/
def listPlatforms : Build Unit := do
  let scope ← defaults
  list scope.platforms.toList { separator := ", " } {} fun platform =>
    text platform.name (.ofPlatform platform)

end Build

end

namespace Build

theorem append_compositional_listPlatforms :
    let tools : Toolkit := ⟨DocTag.toContent, Documentable.functionSignature, ", "⟩
    let scope : Scope := { platforms := Keyed.ofList [⟨"jvm", .jvm, []⟩, ⟨"js", .js, []⟩] }
    let hinted := hint { styles := some (Keyed.singleton .bold) } listPlatforms
    Composed listPlatforms ∧ Composed hinted ∧
      (∀ nodes log, listPlatforms.runFrom tools ⟨scope, nodes⟩ log =
        (fun added => ((), ⟨scope, nodes ++ added⟩)) <$> listPlatforms.nodes tools scope) ∧
      ((do listPlatforms; hinted).nodes tools scope = do
        let front ← listPlatforms.nodes tools scope
        let back ← hinted.nodes tools scope
        return front ++ back) ∧
      ∀ params nodes log, (buildGroup params listPlatforms).runFrom tools ⟨scope, nodes⟩ log =
        (·, ⟨scope, nodes⟩) <$> (Run.contentFor scope.dris scope.platforms
          (params.filled scope) listPlatforms).value tools := by
  intro tools scope hinted
  have hlist : Composed listPlatforms := by
    apply Composed.defaults.bind
    intro scope
    apply Composed.list
    intro platform _
    exact .text platform.name (.ofPlatform platform)
  have hhinted : Composed hinted := .hint _ hlist
  exact ⟨hlist, hhinted, append_compositional hlist hhinted tools scope⟩

end Build

end DocPages
