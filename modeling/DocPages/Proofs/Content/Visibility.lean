import DocPages.Content.Visible
import DocPages.PropertyKind
import Mathlib.Logic.Relation

namespace DocPages

open Relation

section

variable [PropertyFamily]

/-- The nodes of a layer that are searched for visible text. -/
def Layer.counted {ν : Type} : Layer ν → List ν
  | divergentGroup instances _ => instances.flatMap fun variant => variant.divergent.children
  | divergentInstance variant => variant.divergent.children
  | layer => layer.nodes

theorem Layer.counted_subset_nodes {ν : Type} (layer : Layer ν) : layer.counted ⊆ layer.nodes := by
  have divergent (variant : InstanceOf ν) :
      variant.divergent.children ⊆ variant.slots.flatMap GroupOf.children := by
    intro m hm
    have hslot : variant.divergent ∈ variant.slots :=
      List.mem_append_right _ List.mem_cons_self
    exact List.mem_flatMap.mpr ⟨variant.divergent, hslot, hm⟩
  cases layer with
  | divergentGroup instances attrs =>
      intro m hm
      obtain ⟨variant, hvariant, hm⟩ := List.mem_flatMap.mp hm
      exact List.mem_flatMap.mpr ⟨variant, hvariant, divergent variant hm⟩
  | divergentInstance variant => exact divergent variant
  | _ => exact List.Subset.refl _

namespace Node

def Contains (node inner : Node) : Prop := inner ∈ node.layer.nodes

def Counts (node inner : Node) : Prop := inner ∈ node.layer.counted

/-- A text leaf with a character that is no white space. -/
def IsVisibleText (node : Node) : Prop :=
  ∃ s attrs, node = text s attrs ∧ ∃ c ∈ s.toList, Text.isBlankChar c = false

/-- Some visible text is reached from a node, where `below` leads from a node to those in it. -/
def Shows (below : Node → Node → Prop) (node : Node) : Prop :=
  ∃ leaf, ReflTransGen below node leaf ∧ leaf.IsVisibleText

theorem shows_iff {below : Node → Node → Prop} {node : Node} :
    node.Shows below ↔ node.IsVisibleText ∨ ∃ m, below node m ∧ m.Shows below := by
  constructor
  · rintro ⟨leaf, hleaf, htext⟩
    rcases ReflTransGen.cases_head hleaf with rfl | ⟨m, hm, hleaf⟩
    · exact .inl htext
    · exact .inr ⟨m, hm, leaf, hleaf, htext⟩
  · rintro (htext | ⟨m, hm, leaf, hleaf, htext⟩)
    · exact ⟨node, .refl, htext⟩
    · exact ⟨leaf, .head hm hleaf, htext⟩

theorem isVisibleText_text {s : String} {attrs : Attrs} :
    (text s attrs).IsVisibleText ↔ Text.isBlank s = false := by
  constructor
  · rintro ⟨_, _, heq, c, hc, hvisible⟩
    obtain ⟨rfl, rfl⟩ := Layer.text.inj (Node.mk.inj heq)
    exact List.all_eq_false.mpr ⟨c, hc, Bool.eq_false_iff.mp hvisible⟩
  · intro h
    obtain ⟨c, hc, hvisible⟩ := List.all_eq_false.mp h
    exact ⟨s, attrs, rfl, c, hc, Bool.eq_false_iff.mpr hvisible⟩

theorem IsVisibleText.nodes_eq_nil {node : Node} (h : node.IsVisibleText) :
    node.layer.nodes = [] := by
  obtain ⟨s, attrs, rfl, -⟩ := h
  rfl

theorem hasAnyContent_mk_iff (layer : Layer Node) :
    (Node.mk layer).hasAnyContent = true ↔
      (Node.mk layer).IsVisibleText ∨ ∃ m ∈ layer.counted, m.hasAnyContent = true := by
  rw [← List.any_eq_true]
  cases layer with
  | text s attrs =>
      rw [hasAnyContent_text, isVisibleText_text]
      simp [Layer.counted, Layer.nodes]
  | _ => simp [IsVisibleText, Layer.counted, Layer.nodes, GroupOf.hasAnyContent, List.any_flatMap]

theorem hasAnyContent_iff_shows_counts (node : Node) :
    node.hasAnyContent = true ↔ node.Shows Counts := by
  induction node using Node.induction with
  | h layer ih =>
      rw [hasAnyContent_mk_iff, shows_iff]
      apply or_congr_right
      apply exists_congr
      intro m
      exact and_congr_right fun hm => ih m (layer.counted_subset_nodes hm)

theorem shows_contains_of_hasAnyContent {node : Node} (h : node.hasAnyContent = true) :
    node.Shows Contains := by
  obtain ⟨leaf, hleaf, htext⟩ := (hasAnyContent_iff_shows_counts node).mp h
  have hcontains (outer inner : Node) (hm : Counts outer inner) : Contains outer inner :=
    outer.layer.counted_subset_nodes hm
  exact ⟨leaf, ReflTransGen.mono hcontains _ _ hleaf, htext⟩

/-- A visible text gives content to all that it stands in if each node on the way up shows one
where it is searched. -/
theorem hasAnyContent_of_shows_contains {node : Node}
    (hcounted : ∀ inner, ReflTransGen Contains node inner →
      (∃ m, Contains inner m ∧ m.Shows Contains) → ∃ m, Counts inner m ∧ m.Shows Contains)
    (h : node.Shows Contains) : node.hasAnyContent = true := by
  induction node using Node.induction with
  | h layer ih =>
      rw [hasAnyContent_mk_iff]
      rcases shows_iff.mp h with htext | hbelow
      · exact .inl htext
      · obtain ⟨m, hm, hshows⟩ := hcounted ⟨layer⟩ .refl hbelow
        have hnode : m ∈ layer.nodes := layer.counted_subset_nodes hm
        have hcounted' := fun inner hinner => hcounted inner (.head hnode hinner)
        exact .inr ⟨m, hm, ih m hnode hcounted' hshows⟩

/-- A node has content exactly if it shows a visible text where it is searched, and so it shows one
at all. In a whole tree, the nodes that show a visible text are those with content exactly if no
node shows one only before and after the divergent part of an instance. -/
theorem hasAnyContent_iff_visible (node : Node) :
    (node.hasAnyContent = true ↔ node.Shows Counts) ∧
      (node.hasAnyContent = true → node.Shows Contains) ∧
      ((∀ inner, ReflTransGen Contains node inner →
          (inner.hasAnyContent = true ↔ inner.Shows Contains)) ↔
        ∀ inner, ReflTransGen Contains node inner →
          (∃ m, Contains inner m ∧ m.Shows Contains) →
            ∃ m, Counts inner m ∧ m.Shows Contains) := by
  refine ⟨hasAnyContent_iff_shows_counts node, shows_contains_of_hasAnyContent, ?_, ?_⟩
  · -- a node that holds others is no text, so its content comes from one that is searched
    intro h inner hinner hbelow
    have hcontent := (h inner hinner).mpr (shows_iff.mpr (.inr hbelow))
    obtain ⟨layer⟩ := inner
    rcases (hasAnyContent_mk_iff layer).mp hcontent with htext | ⟨m, hm, hcontent⟩
    · obtain ⟨m, hm, -⟩ := hbelow
      rw [Contains, htext.nodes_eq_nil] at hm
      exact absurd hm List.not_mem_nil
    · exact ⟨m, hm, shows_contains_of_hasAnyContent hcontent⟩
  · intro hcounted inner hinner
    refine ⟨shows_contains_of_hasAnyContent, hasAnyContent_of_shows_contains ?_⟩
    exact fun below hbelow => hcounted below (hinner.trans hbelow)

end Node

end

namespace Node

/-- Visible text before a divergent part that shows nothing is no content of the instance. -/
theorem not_visible_before_divergent :
    ¬ ∀ node : Node, node.hasAnyContent = true ↔ node.Shows Contains := by
  intro h
  have hcontent := (h (divergentInstance ⟨some ⟨[text "x" {}], {}⟩, ⟨[], {}⟩, none, {}⟩)).mpr
    ⟨text "x" {}, .single (List.mem_singleton_self _), isVisibleText_text.mpr (by decide)⟩
  exact absurd hcontent (by decide)

end Node

end DocPages
