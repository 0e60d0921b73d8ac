import DocPages.Proofs.Build.Composition
import DocPages.Proofs.Content.Containment
import DocPages.Proofs.Content.Erasure
import DocPages.PropertyKind

/-!
Sections with a row for each element.

A row is the content that would be built for its element alone. What an action appends in a row
without values of its own therefore documents the element and applies to its platforms, at any
depth. `Build.Inherits` says which nodes these are. Its base cases are about what one operation
makes, `Keeps.same` and `Whole.same`; the others only descend into actions that run in the scope
itself or in one that takes the value over.
-/

namespace DocPages

open Relation (ReflTransGen)

section

variable [PropertyFamily]

namespace ScopeField

def isGiven (params : Params) : ScopeField → Bool
  | dris => params.dris.isSome
  | platforms => params.platforms.isSome
  | styles => params.styles.isSome
  | extra => params.extra.isSome

/-- Two scopes have the same value there. -/
def Same (a b : Scope) : ScopeField → Prop
  | dris => a.dris = b.dris
  | platforms => a.platforms = b.platforms
  | styles => a.styles = b.styles
  | extra => a.extra = b.extra

variable {field : ScopeField} {scope : Scope} {params : Params}

theorem Same.trans {a b c : Scope} (hab : field.Same a b) (hbc : field.Same b c) :
    field.Same a c := by
  cases field <;> exact Eq.trans hab hbc

theorem same_resolve (h : field.isGiven params = false) (scope : Scope) (kind : Kind) :
    field.Same (params.resolve scope kind).toScope scope := by
  cases field <;>
  · rw [isGiven, Option.isSome_eq_false_iff, Option.isNone_iff_eq_none] at h
    rw [Same, Params.resolve, h, Option.getD_none]

theorem isGiven_empty (field : ScopeField) : field.isGiven {} = false := by
  cases field <;> rfl

theorem isGiven_ofPlatform (h : field ≠ .platforms) (platform : PlatformData) :
    field.isGiven (.ofPlatform platform) = false := by
  cases field with
  | platforms => exact absurd rfl h
  | _ => rfl

theorem same_withPlatforms (h : field ≠ .platforms) (own : Attrs) (platforms : PlatformSet) :
    field.Same { own with platforms }.toScope own.toScope := by
  cases field with
  | platforms => exact absurd rfl h
  | _ => rfl

theorem same_of_attrs_eq (h : field.isGiven params = false) {kind : Kind} {node : Node}
    (hattrs : node.attrs = params.resolve scope kind) : field.Same node.attrs.toScope scope :=
  hattrs ▸ same_resolve h scope kind

theorem same_of_mem_one {α : Type} (h : field.isGiven params = false) {kind : Kind}
    {node : α → Node} (hattrs : ∀ a, (node a).attrs = params.resolve scope kind)
    {made : Except MissingDivergent α} {nodes : List Node}
    (hrun : (fun a => [node a]) <$> made = .ok nodes) :
    ∀ node ∈ nodes, field.Same node.attrs.toScope scope := by
  obtain ⟨a, _, rfl⟩ := map_eq_ok.mp hrun
  exact List.forall_mem_singleton.mpr (same_of_attrs_eq h (hattrs a))

end ScopeField

namespace Build

open ScopeField

/-- Operations that have no value of their own for the nodes that they append. -/
inductive Keeps (field : ScopeField) : Build Unit → Prop
  | text (s : String) {params : Params} : field.isGiven params = false → Keeps field (text s params)
  | header (level : UInt8) {params : Params} {body : Build Unit} : Composed body →
      field.isGiven params = false → Keeps field (header level params body)
  | linkTable (dris : List Dri) {params : Params} : field.isGiven params = false →
      Keeps field (linkTable dris params)
  | block (name : String) (level : UInt8) {params : Params} (renderWhenEmpty : Bool)
      {elements : List (Documentable × Build Unit)} : (∀ element ∈ elements, Composed element.2) →
      field.isGiven params = false → Keeps field (block name level params renderWhenEmpty elements)
  | link (s : String) (address : Dri) {params : Params} : field.isGiven params = false →
      Keeps field (link s address params)
  | linkContent (address : Dri) {params : Params} {body : Build Unit} : Composed body →
      field.isGiven params = false → Keeps field (linkContent address params body)
  | resolvedLink (s address : String) {params : Params} : field.isGiven params = false →
      Keeps field (resolvedLink s address params)
  | comment (tag : DocTag) {params : Params} : field.isGiven params = false →
      Keeps field (comment tag params)
  | group {params : Params} {body : Build Unit} : Composed body →
      field.isGiven params = false → Keeps field (group params body)
  | hint {params : Params} {body : Build Unit} : Composed body →
      field.isGiven params = false → Keeps field (hint params body)
  | platformText {β : Type} (values : PlatformDependent β) (platforms : PlatformSet)
      (transform : β → String) : field ≠ .platforms →
      Keeps field (platformText values platforms transform)
  | divergentGroup {params : Params} {calls : List (InstanceCall (Build Unit))} :
      (∀ call ∈ calls, ∀ write ∈ call.writes, Composed write.body) → field ≠ .platforms →
      field.isGiven params = false → Keeps field (divergentGroup params calls)

/-- Operations that make all that stands in what they append, without a value of their own. The
content of a comment has its own styles. -/
inductive Whole (field : ScopeField) (tools : Toolkit) : Build Unit → Prop
  | text (s : String) {params : Params} : field.isGiven params = false →
      Whole field tools (text s params)
  | link (s : String) (address : Dri) {params : Params} : field.isGiven params = false →
      Whole field tools (link s address params)
  | resolvedLink (s address : String) {params : Params} : field.isGiven params = false →
      Whole field tools (resolvedLink s address params)
  | comment (tag : DocTag) {params : Params} : tools.comment = DocTag.toContent →
      field = .dris ∨ field = .platforms → field.isGiven params = false →
      Whole field tools (comment tag params)

/-- Operations that run a body in a nested scope, with what it is changed by there. -/
inductive Opens : {α : Type} → Build α → Params → Build Unit → Prop
  | header (level : UInt8) (params : Params) (body : Build Unit) :
      Opens (header level params body) params body
  | linkContent (address : Dri) (params : Params) (body : Build Unit) :
      Opens (linkContent address params body) params body
  | buildGroup (params : Params) (body : Build Unit) : Opens (buildGroup params body) params body
  | group (params : Params) (body : Build Unit) : Opens (group params body) params body
  | hint (params : Params) (body : Build Unit) : Opens (hint params body) params body

/-- The nodes that an action appends, at any depth, by operations without a value of their own in
scopes that take the value over. A list is a sequence of texts and of what its operation makes of
the elements, so it needs no case of its own. -/
inductive Inherits (field : ScopeField) (tools : Toolkit) :
    {α : Type} → Scope → Build α → Node → Prop
  | kept {scope : Scope} {build : Build Unit} {nodes : List Node} {node : Node} :
      Keeps field build → build.nodes tools scope = .ok nodes → node ∈ nodes →
      Inherits field tools scope build node
  | whole {scope : Scope} {build : Build Unit} {nodes : List Node} {node part : Node} :
      Whole field tools build → build.nodes tools scope = .ok nodes → node ∈ nodes →
      ReflTransGen Node.Holds node part → Inherits field tools scope build part
  | first {α β : Type} {scope : Scope} {build : Build α} (next : α → Build β) {node : Node} :
      Inherits field tools scope build node → Inherits field tools scope (build >>= next) node
  | next {α β : Type} {scope : Scope} {build : Build α} {next : α → Build β} {a : α}
      {before : List Node} {node : Node} : build.yield tools scope = .ok (a, before) →
      Inherits field tools scope (next a) node → Inherits field tools scope (build >>= next) node
  | operation {scope : Scope} (params : Params) {operation : Build (List Group)} {node : Node} :
      Inherits field tools scope operation node →
      Inherits field tools scope (table params operation) node
  | table {scope : Scope} {params : Params} {operation : Build (List Group)} {rows : List Group}
      {before : List Node} : operation.yield tools scope = .ok (rows, before) →
      field.isGiven params = false →
      Inherits field tools scope (table params operation)
        (.table [] rows (params.resolve scope .main))
  | nested {α : Type} {scope : Scope} {build : Build α} {params : Params} {body : Build Unit}
      {node : Node} : Opens build params body → field.isGiven params = false →
      Inherits field tools (params.resolve scope .main).toScope body node →
      Inherits field tools scope build node

variable {field : ScopeField} {tools : Toolkit} {scope : Scope}

theorem Keeps.same {build : Build Unit} (h : Keeps field build) {nodes : List Node}
    (hrun : build.nodes tools scope = .ok nodes) :
    ∀ node ∈ nodes, field.Same node.attrs.toScope scope := by
  have hone {node : Node} (h : field.Same node.attrs.toScope scope) :
      ∀ n ∈ [node], field.Same n.attrs.toScope scope := List.forall_mem_singleton.mpr h
  cases h with
  | text s h =>
      obtain rfl := Except.ok.inj hrun
      exact hone (same_of_attrs_eq h (Node.attrs_text _ s))
  | header level hbody h =>
      rw [nodes_header tools scope level _ hbody.appendOnly] at hrun
      exact same_of_mem_one h (fun _ => Node.attrs_header _ level) hrun
  | linkTable dris h =>
      rw [nodes_linkTable] at hrun
      obtain rfl := Except.ok.inj hrun
      exact hone (same_of_attrs_eq h (Node.attrs_table _ _ _))
  | block name level renderWhenEmpty helements h =>
      rw [nodes_block tools scope name level _ renderWhenEmpty fun element helement =>
        (helements element helement).appendOnly] at hrun
      split at hrun
      · obtain rfl := Except.ok.inj hrun
        exact List.forall_mem_nil _
      · obtain ⟨rows, _, rfl⟩ := map_eq_ok.mp hrun
        refine List.forall_mem_cons.mpr
          ⟨?_, hone (same_of_attrs_eq h (Node.attrs_table _ _ _))⟩
        rw [Node.attrs_header]
        exact same_resolve (isGiven_empty field) scope .main
  | link s address h =>
      obtain rfl := Except.ok.inj hrun
      exact hone (same_of_attrs_eq h (Node.attrs_driLink _ _ _))
  | linkContent address hbody h =>
      rw [nodes_linkContent tools scope address _ hbody.appendOnly] at hrun
      exact same_of_mem_one h (fun _ => Node.attrs_driLink _ _ address) hrun
  | resolvedLink s address h =>
      obtain rfl := Except.ok.inj hrun
      exact hone (same_of_attrs_eq h (Node.attrs_resolvedLink _ _ _))
  | comment tag h =>
      obtain rfl := Except.ok.inj hrun
      exact hone (same_of_attrs_eq h (Node.attrs_group _))
  | group hbody h =>
      rw [nodes_group tools scope _ hbody.appendOnly] at hrun
      exact same_of_mem_one h (fun _ => Node.attrs_group _) hrun
  | @hint params body hbody h =>
      let own := params.resolve scope .main
      have hattrs (children : List Node) :
          (Node.platformHinted (.group ⟨children, own⟩) own.platforms).attrs = own := by
        rw [Node.attrs_platformHinted, Node.attrs_group]
      rw [nodes_hint tools scope params hbody.appendOnly] at hrun
      exact same_of_mem_one h hattrs hrun
  | platformText values platforms transform hfield =>
      rw [nodes_platformText] at hrun
      obtain rfl := Except.ok.inj hrun
      rw [List.forall_mem_map]
      intro entry _
      exact same_of_attrs_eq (isGiven_ofPlatform hfield entry.1) (Node.attrs_text _ _)
  | divergentGroup hcalls hfield h =>
      rw [nodes_divergentGroup tools scope _ fun call hcall write hwrite =>
        (hcalls call hcall write hwrite).appendOnly] at hrun
      obtain ⟨found, _, rfl⟩ := map_eq_ok.mp hrun
      apply hone
      rw [Node.attrs_divergentGroup]
      exact (same_withPlatforms hfield _ _).trans (same_resolve h scope .main)

theorem Whole.same {build : Build Unit} (h : Whole field tools build) {nodes : List Node}
    (hrun : build.nodes tools scope = .ok nodes) :
    ∀ node ∈ nodes, node.Throughout fun part => field.Same part.attrs.toScope scope := by
  let Takes (node : Node) : Prop := node.Throughout fun part => field.Same part.attrs.toScope scope
  have hone {node : Node} (h : Takes node) : ∀ n ∈ [node], Takes n :=
    List.forall_mem_singleton.mpr h
  have htext (s : String) {params : Params} (h : field.isGiven params = false) :
      Takes (.text s (params.resolve scope .main)) :=
    .of_children (same_of_attrs_eq h (Node.attrs_text _ s)) rfl (List.forall_mem_nil _)
  cases h with
  | text s h =>
      obtain rfl := Except.ok.inj hrun
      exact hone (htext s h)
  | link s address h =>
      obtain rfl := Except.ok.inj hrun
      refine hone (.of_children (same_of_attrs_eq h (Node.attrs_driLink _ _ _)) rfl ?_)
      exact hone (htext s h)
  | resolvedLink s address h =>
      obtain rfl := Except.ok.inj hrun
      refine hone (.of_children (same_of_attrs_eq h (Node.attrs_resolvedLink _ _ _)) rfl ?_)
      exact hone (htext s h)
  | comment tag htools hfield h =>
      rw [nodes_comment, htools] at hrun
      obtain rfl := Except.ok.inj hrun
      refine hone (.of_children (same_of_attrs_eq h (Node.attrs_group _)) rfl ?_)
      intro child hchild part hpart
      obtain ⟨_, styles, hattrs⟩ :=
        DocTag.throughout_converted_contentIn _ _ tag child hchild part hpart
      have hgiven := same_resolve h scope .comment
      rw [hattrs]
      rcases hfield with rfl | rfl
      · exact hgiven
      · exact hgiven

theorem Inherits.same {α : Type} {build : Build α} {node : Node}
    (h : Inherits field tools scope build node) : field.Same node.attrs.toScope scope := by
  induction h with
  | kept hkeeps hrun hnode => exact hkeeps.same hrun _ hnode
  | whole hwhole hrun hnode hpart => exact hwhole.same hrun _ hnode _ hpart
  | first _ _ ih => exact ih
  | next _ _ ih => exact ih
  | operation _ _ ih => exact ih
  | table _ h => exact same_of_attrs_eq h (Node.attrs_table _ _ _)
  | nested _ h _ ih => exact ih.trans (same_resolve h _ .main)

/-- The groups of a section are the content that is built for each element alone, with the role,
styles and properties of the table. -/
theorem rowGroups_eq_contentForDocumentable {elements : List (Documentable × Build Unit)}
    (h : ∀ element ∈ elements, AppendOnly element.2) (tools : Toolkit) (table : Attrs) :
    rowGroups tools (elementAttrs table) Prod.snd elements = elements.mapM fun element =>
      (Run.contentForDocumentable element.1
        { kind := some table.kind, styles := some table.styles, extra := some table.extra }
        element.2).value tools := by
  apply mapM_congr
  intro element helement
  exact (value_inScope (h element helement) (elementAttrs table element) tools).symm

/-- A section without elements appends nothing unless it is to be shown too. Otherwise it appends a
header with its name, built in the scope around it, and a table of what its parameters resolve to
there. The rows are the content for one element after the other, built apart with the role, styles
and properties of the table. So what the steps of a row append without entities of their own
documents the element, and without platforms of their own it applies to those of the element, at any
depth. -/
theorem block_eq_contentForDocumentable {elements : List (Documentable × Build Unit)}
    (h : ∀ element ∈ elements, Composed element.2) (name : String) (level : UInt8)
    (params : Params) (renderWhenEmpty : Bool) (tools : Toolkit) (scope : Scope) :
    let build := block name level params renderWhenEmpty elements
    let table := params.resolve scope .main
    let own : Params :=
      { kind := some table.kind, styles := some table.styles, extra := some table.extra }
    let title : Node := .header level ⟨[.text name { toScope := scope }], { toScope := scope }⟩
    (elements = [] → renderWhenEmpty = false → ∀ nodes log,
      build.runFrom tools ⟨scope, nodes⟩ log = .ok ((), ⟨scope, nodes⟩)) ∧
    (elements ≠ [] ∨ renderWhenEmpty = true → ∀ nodes log,
      build.runFrom tools ⟨scope, nodes⟩ log =
        (fun rows => ((), ⟨scope, nodes ++ [title, .table [] rows table]⟩)) <$>
          elements.mapM fun element =>
            (Run.contentForDocumentable element.1 own element.2).value tools) ∧
    ∀ element ∈ elements, ∀ row,
      (Run.contentForDocumentable element.1 own element.2).value tools = .ok row →
        row.attrs = { table with
          dris := Keyed.singleton element.1.dri, platforms := element.1.platforms } ∧
        element.2.nodes tools row.attrs.toScope = .ok row.children ∧
        ∀ node, (Inherits .dris tools row.attrs.toScope element.2 node →
            node.attrs.dris = Keyed.singleton element.1.dri) ∧
          (Inherits .platforms tools row.attrs.toScope element.2 node →
            node.attrs.platforms = element.1.platforms) := by
  intro build table own title
  have happend := fun element helement => (h element helement).appendOnly
  have hrun := (appendOnly_block name level params renderWhenEmpty happend).runFrom_eq tools scope
  have hnodes := nodes_block tools scope name level params renderWhenEmpty happend
  refine ⟨?_, ?_, ?_⟩
  · rintro rfl rfl nodes log
    rw [hrun, hnodes]
    exact congrArg (fun nodes => Except.ok ((), Draft.mk scope nodes)) (List.append_nil nodes)
  · intro hshown nodes log
    have hcond : ¬(elements.isEmpty && !renderWhenEmpty) = true := by
      rw [Bool.and_eq_true, List.isEmpty_iff, Bool.not_eq_true', ← Bool.not_eq_true]
      rintro ⟨hempty, hhidden⟩
      exact hshown.elim (· hempty) hhidden
    rw [hrun, hnodes, if_neg hcond, Functor.map_map,
      rowGroups_eq_contentForDocumentable happend tools table]
  · intro element helement row hrow
    have hvalue := value_inScope (happend element helement) (elementAttrs table element) tools
    obtain ⟨children, hchildren, rfl⟩ := map_eq_ok.mp (hvalue.symm.trans hrow)
    refine ⟨rfl, hchildren, fun node => ⟨?_, ?_⟩⟩
    · intro hinherits
      exact hinherits.same
    · intro hinherits
      exact hinherits.same

end Build

end

namespace Build

theorem block_eq_contentForDocumentable_twoRows :
    let tools : Toolkit := ⟨DocTag.toContent, Documentable.functionSignature, ", "⟩
    let jvm : PlatformSet := Keyed.singleton ⟨"jvm", .jvm, []⟩
    let js : PlatformSet := Keyed.singleton ⟨"js", .js, []⟩
    let a : Documentable := { dri := .package "a", platforms := jvm }
    let b : Documentable := { dri := .package "b", platforms := js }
    let other : Params := .ofDri (.package "c")
    let scope : Scope := { dris := Keyed.singleton (.package "p"), platforms := jvm }
    let params : Params := { kind := some .packages }
    let elements : List (Documentable × Build Unit) :=
      [(a, text "a" {}), (b, do text "b" {}; text "c" other)]
    let own (d : Documentable) (kind : Kind) : Attrs :=
      { dris := Keyed.singleton d.dri, platforms := d.platforms, kind }
    let second := own b .packages
    (∀ element ∈ elements, Composed element.2) ∧
      (block "Packages" 2 params false elements).runFrom tools ⟨scope, []⟩ [] =
        .ok ((), ⟨scope, [
          .header 2 ⟨[.text "Packages" { toScope := scope }], { toScope := scope }⟩,
          .table [] [⟨[.text "a" (own a .main)], own a .packages⟩,
            ⟨[.text "b" (own b .main), .text "c" (other.resolve second.toScope .main)], second⟩]
            (params.resolve scope .main)]⟩) ∧
      Inherits .dris tools second.toScope (do text "b" {}; text "c" other)
        (.text "b" (own b .main)) ∧
      ∀ node, Inherits .dris tools second.toScope (do text "b" {}; text "c" other) node →
        node.attrs.dris = Keyed.singleton b.dri := by
  intro tools jvm js a b other scope params elements own second
  have hcomposed : ∀ element ∈ elements, Composed element.2 := by
    rw [List.forall_mem_cons, List.forall_mem_singleton]
    exact ⟨.text "a" {}, (Composed.text "b" {}).bind fun _ => .text "c" other⟩
  obtain ⟨_, hrun, hrows⟩ :=
    block_eq_contentForDocumentable hcomposed "Packages" 2 params false tools scope
  have hinherits : Inherits .dris tools second.toScope (text "b" {}) (.text "b" (own b .main)) :=
    .kept (.text "b" rfl) rfl List.mem_cons_self
  refine ⟨hcomposed, hrun (.inl (List.cons_ne_nil _ _)) [] [], hinherits.first _, ?_⟩
  intro node hnode
  have hrow := hrows _ (List.mem_cons_of_mem _ List.mem_cons_self)
    ⟨[.text "b" (own b .main), .text "c" (other.resolve second.toScope .main)], second⟩ rfl
  exact (hrow.2.2 node).1 hnode

end Build

end DocPages
