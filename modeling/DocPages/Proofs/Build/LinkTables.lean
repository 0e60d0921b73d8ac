import DocPages.Proofs.Build.Operations
import DocPages.PropertyKind
import DocPages.Signature

namespace DocPages

namespace Build

variable [PropertyFamily]

/-- The link that stands for an entity. -/
def linkTo (dri : Dri) : Build Unit := link (dri.classNames.getD "") dri {}

theorem run_title (name : String) (level : UInt8) (draft : Draft) :
    StateT.run (header level {} (text name {})) draft =
      pure ((), { draft with nodes := draft.nodes ++
        [.header level ⟨[.text name { toScope := draft.scope }], { toScope := draft.scope }⟩] }) :=
  rfl

theorem run_resolve_bind {α : Type} (params : Params) (kind : Kind) (f : Attrs → Build α)
    (draft : Draft) :
    StateT.run (resolve params kind >>= f) draft =
      StateT.run (f (params.resolve draft.scope kind)) draft := rfl

theorem mapM_inScope_linkTo (table : Attrs) {elements : List Documentable}
    (h : ∀ element ∈ elements, element.platforms = table.platforms) :
    ((elements.map fun element => (element, linkTo element.dri)).mapM fun (documentable, body) =>
      (Run.inScope { table with
        dris := Keyed.singleton documentable.dri, platforms := documentable.platforms } body :
        Build Group)) =
      (elements.map Documentable.dri).mapM fun dri =>
        (Run.inScope { table with dris := Keyed.singleton dri } (linkTo dri) : Build Group) := by
  rw [List.mapM_map, List.mapM_map]
  apply mapM_congr
  intro element helement
  simp only [Function.comp_apply, h element helement]

theorem run_block_linkTo (name : String) (level : UInt8) (params : Params)
    {elements : List Documentable} (draft : Draft)
    (h : ∀ element ∈ elements,
      element.platforms = (params.resolve draft.scope .main).platforms) :
    StateT.run (block name level params true
        (elements.map fun element => (element, linkTo element.dri))) draft =
      StateT.run (do
        header level {} (text name {})
        linkTable (elements.map Documentable.dri) params) draft := by
  have hshown : ¬((elements.map fun element => (element, linkTo element.dri)).isEmpty &&
      !true) = true := by
    rw [Bool.not_true, Bool.and_false]
    exact Bool.false_ne_true
  unfold block linkTable
  rw [if_neg hshown, StateT.run_bind, StateT.run_bind, run_title, pure_bind, pure_bind,
    run_resolve_bind, run_resolve_bind, mapM_inScope_linkTo _ h]
  rfl

/-- A table of links is the table of a section, shown without elements too, whose elements are the
entities on the platforms of the table and whose bodies link to them. There is a row for each entity
as often as it is listed. The row belongs to this entity alone and holds one link to it with one
text, which carry all values of the row but for its role. Another role changes the table and the
rows, not what stands in them. -/
theorem linkTable_eq_block (dris : List Dri) (params : Params) (tools : Toolkit) (draft : Draft) :
    let table := params.resolve draft.scope .main
    let own (dri : Dri) : Attrs := { table with dris := Keyed.singleton dri }
    let inner (dri : Dri) : Attrs := { own dri with kind := .main }
    let content (dri : Dri) : List Node :=
      [.driLink [.text (dri.classNames.getD "") (inner dri)] dri (inner dri)]
    (∀ (elements : List Documentable) (name : String) (level : UInt8),
      elements.map Documentable.dri = dris →
      (∀ element ∈ elements, element.platforms = table.platforms) →
      StateT.run (block name level params true
          (elements.map fun element => (element, linkTo element.dri))) draft =
        StateT.run (do
          header level {} (text name {})
          linkTable dris params) draft) ∧
    (∀ log, (linkTable dris params).runFrom tools draft log =
      .ok ((), { draft with nodes := draft.nodes ++
        [.table [] (dris.map fun dri => ⟨content dri, own dri⟩) table] })) ∧
    ∀ kind log, (linkTable dris { params with kind := some kind }).runFrom tools draft log =
      .ok ((), { draft with nodes := draft.nodes ++
        [.table [] (dris.map fun dri => ⟨content dri, { own dri with kind }⟩)
          { table with kind }] }) := by
  intro table own inner content
  have hrun (params : Params) (log : List Observation) :
      (linkTable dris params).runFrom tools draft log =
        .ok ((), { draft with nodes := draft.nodes ++
          [.table [] (dris.map (linkRow (params.resolve draft.scope .main)))
            (params.resolve draft.scope .main)] }) := by
    have happend := (appendOnly_linkTable dris params).runFrom_eq tools draft.scope draft.nodes log
    rwa [nodes_linkTable] at happend
  refine ⟨?_, hrun params, fun kind => hrun { params with kind := some kind }⟩
  rintro elements name level rfl hplatforms
  exact run_block_linkTo name level params draft hplatforms

end Build

namespace Build

theorem linkTable_eq_block_repeated :
    let tools : Toolkit := ⟨DocTag.toContent, Documentable.functionSignature, ", "⟩
    let js : PlatformSet := Keyed.singleton ⟨"js", .js, []⟩
    let dri : Dri := { packageName := some "p", classNames := some "A" }
    let element : Documentable := { dri, platforms := js }
    let params : Params := { kind := some .classlikes, platforms := some js }
    let draft : Draft := { scope := { dris := Keyed.singleton (.package "p") } }
    let title : Node := .header 2 ⟨[.text "Types" { toScope := draft.scope }],
      { toScope := draft.scope }⟩
    let inner : Attrs := { dris := Keyed.singleton dri, platforms := js }
    let row : Group := ⟨[.driLink [.text "A" inner] dri inner], { inner with kind := .classlikes }⟩
    (∀ e ∈ [element, element], e.platforms = (params.resolve draft.scope .main).platforms) ∧
      (block "Types" 2 params true
          ([element, element].map fun e => (e, linkTo e.dri))).runFrom tools draft [] =
        .ok ((), { draft with nodes :=
          [title, .table [] [row, row] (params.resolve draft.scope .main)] }) := by
  intro tools js dri element params draft title inner row
  have hplatforms : ∀ e ∈ [element, element],
      e.platforms = (params.resolve draft.scope .main).platforms := by
    rw [List.forall_mem_cons, List.forall_mem_singleton]
    exact ⟨rfl, rfl⟩
  have hsection := (linkTable_eq_block [dri, dri] params tools draft).1 [element, element] "Types" 2
    rfl hplatforms
  refine ⟨hplatforms, ?_⟩
  rw [runFrom, hsection]
  rfl

end Build

end DocPages
