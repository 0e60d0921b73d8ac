import DocPages.Proofs.Build.Composition
import DocPages.PropertyKind

namespace DocPages

namespace Build

variable [PropertyFamily]

theorem framed_eq_intercalate (framing : Framing) (attrs : Attrs) {made : List (List Node)}
    (h : made ≠ []) :
    framed framing attrs made = frame framing.opening attrs ++
      [.text framing.separator attrs].intercalate made ++ frame framing.closing attrs := by
  have hrest (first : List Node) (rest : List (List Node)) :
      [.text framing.separator attrs].intercalate (first :: rest) =
        first ++ rest.flatMap (.text framing.separator attrs :: ·) := by
    induction rest generalizing first with
    | nil => rw [List.intercalate_singleton, List.flatMap_nil, List.append_nil]
    | cons second rest ih =>
        rw [List.intercalate_cons_cons, ih, List.flatMap_cons, List.append_assoc,
          List.singleton_append, List.cons_append]
  cases made with
  | nil => exact absurd rfl h
  | cons first rest => rw [framed, hrest, List.append_assoc, List.append_assoc]

theorem length_intercalate_separator (separator : Node) {made : List (List Node)} (h : made ≠ []) :
    ([separator].intercalate made).length + 1 = made.flatten.length + made.length := by
  cases made with
  | nil => exact absurd rfl h
  | cons first rest =>
      clear h
      induction rest generalizing first with
      | nil =>
          rw [List.intercalate_singleton, List.flatten_singleton, List.length_singleton]
      | cons second rest ih =>
          have htail := ih second
          rw [List.intercalate_cons_cons, List.length_append, List.length_append,
            List.length_singleton, List.flatten_cons, List.length_append, List.length_cons]
          omega

theorem framingText_empty (params : Params) : framingText "" params = pure () := rfl

section lists

variable {α : Type} {operation : α → Build Unit}

theorem list_append {front back : List α} (hfront : front ≠ []) (hback : back ≠ [])
    (separator : String) (params : Params) :
    list (front ++ back) { separator } params operation = (do
      list front { separator } params operation
      text separator params
      list back { separator } params operation) := by
  cases front with
  | nil => exact absurd rfl hfront
  | cons first front =>
      cases back with
      | nil => exact absurd rfl hback
      | cons second back =>
          simp only [List.cons_append, list, framingText_empty, List.forM_eq_forM,
            List.forM_append, List.forM_cons, bind_assoc, pure_bind]

/-- A list leaves a scope as it is if there are no elements. Otherwise it appends what each element
makes in the scope, with a separator between any two, and the opening and closing texts if they are
not empty. These texts and the separators alone carry what the parameters resolve to, and the
separators are one fewer than the elements. Without framing, a list of two lists is the one, a
separator and the other, and a list with the shared separator is one without framing. -/
theorem list_exactly_framed {elements : List α} (h : ∀ a ∈ elements, Composed (operation a))
    (framing : Framing) (params : Params) (tools : Toolkit) (scope : Scope) :
    let leaf (s : String) : Node := .text s (params.resolve scope .main)
    let edge (s : String) : List Node := if s = "" then [] else [leaf s]
    (elements = [] → ∀ nodes log,
      (list elements framing params operation).runFrom tools ⟨scope, nodes⟩ log =
        .ok ((), ⟨scope, nodes⟩)) ∧
    (elements ≠ [] → ∀ nodes log,
      (list elements framing params operation).runFrom tools ⟨scope, nodes⟩ log =
        (fun made => ((), ⟨scope, nodes ++ (edge framing.opening ++
          [leaf framing.separator].intercalate made ++ edge framing.closing)⟩)) <$>
          elements.mapM fun a => (operation a).nodes tools scope) ∧
    (∀ made, (elements.mapM fun a => (operation a).nodes tools scope) = .ok made → elements ≠ [] →
      made.length = elements.length ∧ ([leaf framing.separator].intercalate made).length + 1 =
        made.flatten.length + elements.length) ∧
    (∀ front back : List α, front ≠ [] → back ≠ [] →
      list (front ++ back) { separator := framing.separator } params operation = do
        list front { separator := framing.separator } params operation
        text framing.separator params
        list back { separator := framing.separator } params operation) ∧
    ∀ draft log, (listDefault elements operation).runFrom tools draft log =
      (list elements { separator := tools.listSeparator } {} operation).runFrom tools draft
        log := by
  intro leaf edge
  have hedge (s : String) : frame s (params.resolve scope .main) = edge s := by
    simp only [frame, edge, leaf, String.isEmpty_iff]
  have happend := fun a ha => (h a ha).appendOnly
  have hnonempty {made : List (List Node)} (hne : elements ≠ [])
      (hmade : (elements.mapM fun a => (operation a).nodes tools scope) = .ok made) :
      made ≠ [] := by
    rintro rfl
    exact hne (List.length_eq_zero_iff.mp (length_of_mapM_eq_ok hmade).symm)
  refine ⟨?_, ?_, ?_, ?_, ?_⟩
  · rintro rfl nodes log
    rfl
  · intro hne nodes log
    rw [(appendOnly_list framing params happend).runFrom_eq,
      nodes_list tools scope framing params happend, Functor.map_map]
    cases hmade : elements.mapM fun a => (operation a).nodes tools scope with
    | error missing => rfl
    | ok made =>
        have hframed : framed framing (params.resolve scope .main) made =
            edge framing.opening ++ [leaf framing.separator].intercalate made ++
              edge framing.closing := by
          rw [framed_eq_intercalate framing _ (hnonempty hne hmade), hedge, hedge]
        exact congrArg (fun added => Except.ok ((), Draft.mk scope (nodes ++ added))) hframed
  · intro made hmade hne
    have hlength := length_of_mapM_eq_ok hmade
    have hcount := length_intercalate_separator (leaf framing.separator) (hnonempty hne hmade)
    exact ⟨hlength, hlength ▸ hcount⟩
  · intro front back hfront hback
    exact list_append hfront hback framing.separator params
  · intro draft log
    rw [listDefault, runFrom_read_bind]

end lists

end Build

namespace Build

theorem list_exactly_framed_emptySeparator :
    let tools : Toolkit := ⟨DocTag.toContent, Documentable.functionSignature, ", "⟩
    let scope : Scope := { platforms := Keyed.singleton ⟨"jvm", .jvm, []⟩ }
    let params : Params := { styles := some (Keyed.singleton .bold) }
    let framing : Framing := { opening := "(" }
    let twice (b : Bool) : Build Unit := if b then (do text "a" {}; text "b" {}) else pure ()
    let leaf (params : Params) (s : String) : Node := .text s (params.resolve scope .main)
    (∀ b ∈ [true, false], Composed (twice b)) ∧
      (list [true, false] framing params twice).runFrom tools ⟨scope, [leaf {} "before"]⟩ [] =
        .ok ((), ⟨scope, [leaf {} "before", leaf params "(", leaf {} "a", leaf {} "b",
          leaf params ""]⟩) := by
  intro tools scope params framing twice leaf
  have hcomposed : ∀ b ∈ [true, false], Composed (twice b) := by
    rw [List.forall_mem_cons, List.forall_mem_singleton]
    exact ⟨(Composed.text "a" {}).bind fun _ => .text "b" {}, .pure ()⟩
  have hframed := (list_exactly_framed hcomposed framing params tools scope).2.1
    (List.cons_ne_nil true [false]) [leaf {} "before"] []
  exact ⟨hcomposed, hframed⟩

end Build

end DocPages
