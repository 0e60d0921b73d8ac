import DocPages.DocTag.Content
import DocPages.PropertyKind
import Mathlib.Data.List.Forall2

namespace DocPages

/-- A text or a link, apart from what stands around it and in it. -/
inductive Mark where
  | text (text : String)
  | link (address : String)
  | documentationLink (address : Dri)
deriving DecidableEq

/-- A text or link of a comment with the markup that it stands in, innermost first. -/
structure Span where
  mark : Mark
  around : List Markup

/-- A text or link of content with its styles. -/
structure Shown where
  mark : Mark
  styles : StyleSet

namespace Markup

/-- The link that an element is. -/
def mark? : Markup → Option Mark
  | link address => some (.link address)
  | documentationLink address => some (.documentationLink address)
  | _ => none

/-- Whether an element cuts off the emphasis around it. -/
def startsAfresh : Markup → Bool
  | codeInline | codeBlock _ | unorderedList | orderedList => true
  | _ => false

/-- Some of the markup is emphasis of a style, with neither code nor a list further in. -/
def Emphasises (style : Style) (around : List Markup) : Prop :=
  ∃ inner markup outer, around = inner ++ markup :: outer ∧ markup.emphasis? = some style ∧
    ∀ between ∈ inner, between.startsAfresh = false

theorem not_emphasises_nil (style : Style) : ¬ Emphasises style [] := by
  rintro ⟨inner, markup, outer, h, _⟩
  simp at h

theorem emphasises_cons {style : Style} {markup : Markup} {around : List Markup} :
    Emphasises style (markup :: around) ↔
      markup.emphasis? = some style ∨ markup.startsAfresh = false ∧ Emphasises style around := by
  constructor
  · rintro ⟨inner, emphasis, outer, h, hstyle, hinner⟩
    cases inner with
    | nil =>
        obtain ⟨rfl, rfl⟩ := List.cons.inj h
        exact .inl hstyle
    | cons between inner =>
        obtain ⟨rfl, rfl⟩ := List.cons.inj h
        rw [List.forall_mem_cons] at hinner
        exact .inr ⟨hinner.1, inner, emphasis, outer, rfl, hstyle, hinner.2⟩
  · rintro (hstyle | ⟨hmarkup, inner, emphasis, outer, rfl, hstyle, hinner⟩)
    · exact ⟨[], markup, around, rfl, hstyle, List.forall_mem_nil _⟩
    · exact ⟨markup :: inner, emphasis, outer, rfl, hstyle,
        List.forall_mem_cons.mpr ⟨hmarkup, hinner⟩⟩

theorem mem_inherited {style : Style} {styles : StyleSet} {markup : Markup} :
    style ∈ markup.inherited styles ↔
      markup.emphasis? = some style ∨ markup.startsAfresh = false ∧ style ∈ styles := by
  have hempty : style ∉ (∅ : StyleSet) := List.not_mem_nil
  cases markup <;>
    simp [inherited, emphasis?, startsAfresh, OrderedSet.mem_insert, hempty, eq_comm]

end Markup

namespace DocTag

mutual

/-- The texts and links of a tag that stands in some markup, in document order. -/
def spans (around : List Markup) : DocTag → List Span
  | text s => [⟨.text s, around⟩]
  | lineBreak => []
  | element markup children =>
      (markup.mark?.map fun mark => ⟨mark, around⟩).toList ++ spansAll (markup :: around) children

def spansAll (around : List Markup) : List DocTag → List Span
  | [] => []
  | tag :: rest => tag.spans around ++ spansAll around rest

end

end DocTag

section conversion

variable [PropertyFamily]

/-- The texts and links of a layer in document order, given those of its nodes. -/
def Layer.shown : Layer (List Shown) → List Shown
  | text s attrs => [⟨.text s, attrs.styles⟩]
  | resolvedLink children address attrs => ⟨.link address, attrs.styles⟩ :: children.flatten
  | driLink children address attrs => ⟨.documentationLink address, attrs.styles⟩ :: children.flatten
  | layer => layer.nodes.flatten

def Node.shown : Node → List Shown := Node.fold Layer.shown

/-- The texts and links of some nodes in document order. -/
def shownAll (nodes : List Node) : List Shown := nodes.flatMap Node.shown

/-- A text or link of content is that of a comment, and carries just the emphasis that reaches
it. -/
structure Span.Becomes (span : Span) (shown : Shown) : Prop where
  mark_eq : shown.mark = span.mark
  mem_styles_iff : ∀ style, style ∈ shown.styles ↔ Markup.Emphasises style span.around

theorem shownAll_content (attrs : StyleSet → Attrs) (styles : StyleSet) (children : List Node)
    (markup : Markup) :
    shownAll (markup.content attrs styles children) =
      (markup.mark?.map fun mark => ⟨mark, (attrs styles).styles⟩).toList ++ shownAll children := by
  have hsingle (node : Node) : shownAll [node] = node.shown :=
    List.flatMap_singleton Node.shown node
  cases markup with
  | custom name => rfl
  | _ =>
      rw [Markup.content, hsingle, Node.shown, Node.fold_mk]
      simp [Layer.map, Layer.shown, Layer.nodes, GroupOf.map, Markup.mark?, shownAll,
        List.flatMap_def, Node.shown]

variable {attrs : StyleSet → Attrs} {styles : StyleSet} {around : List Markup}

theorem Span.becomes_of_styles (hattrs : ∀ styles, (attrs styles).styles = styles)
    (hstyles : ∀ style, style ∈ styles ↔ Markup.Emphasises style around) (mark : Mark) :
    Becomes ⟨mark, around⟩ ⟨mark, (attrs styles).styles⟩ := by
  rw [hattrs]
  exact ⟨rfl, hstyles⟩

namespace DocTag

/-- Handed the styles of the emphasis that reaches it, a tag becomes content in which every text and
link carries what reaches it there. -/
theorem becomes_contentIn (hattrs : ∀ styles, (attrs styles).styles = styles)
    (hstyles : ∀ style, style ∈ styles ↔ Markup.Emphasises style around) (tag : DocTag) :
    List.Forall₂ Span.Becomes (tag.spans around) (shownAll (tag.contentIn attrs styles)) := by
  induction tag using DocTag.induction generalizing styles around with
  | text s => exact .cons (Span.becomes_of_styles hattrs hstyles (.text s)) .nil
  | lineBreak => exact .nil
  | element markup children ih =>
      have hinherited : ∀ style, style ∈ markup.inherited styles ↔
          Markup.Emphasises style (markup :: around) := by
        intro style
        rw [Markup.mem_inherited, Markup.emphasises_cons, hstyles]
      have hchildren : List.Forall₂ Span.Becomes (spansAll (markup :: around) children)
          (shownAll (contentAllIn attrs (markup.inherited styles) children)) := by
        induction children with
        | nil => exact .nil
        | cons tag rest ihrest =>
            rw [List.forall_mem_cons] at ih
            rw [spansAll, contentAllIn, shownAll, List.flatMap_append]
            exact List.rel_append (ih.1 hinherited) (ihrest ih.2)
      rw [spans, contentIn, shownAll_content]
      refine List.rel_append ?_ hchildren
      cases markup.mark? with
      | none => exact .nil
      | some mark => exact .cons (Span.becomes_of_styles hattrs hstyles mark) .nil

/-- The texts and links of a comment are those of its content in the same order, each with the
styles of the emphasis around it that neither code nor a list cuts off. -/
theorem toContent_emphasis (tag : DocTag) (identity : Identity) (platforms : PlatformSet) :
    List.Forall₂ Span.Becomes (tag.spans []) (shownAll (tag.toContent identity platforms)) := by
  apply becomes_contentIn (fun _ => rfl)
  intro style
  exact iff_of_false List.not_mem_nil (Markup.not_emphasises_nil style)

end DocTag

end conversion

namespace DocTag

/-- Text in code does not carry the emphasis around the code. -/
theorem not_emphasis_in_code : ¬ ∀ (tag : DocTag) (identity : Identity) (platforms : PlatformSet),
    List.Forall₂ (fun span shown => shown.mark = span.mark ∧ ∀ markup ∈ span.around,
        ∀ style, markup.emphasis? = some style → style ∈ shown.styles)
      (tag.spans []) (shownAll (tag.toContent identity platforms)) := by
  intro h
  have hcode := h (.element .bold [.element .codeInline [.text "x"]]) default ∅
  rcases hcode with _ | ⟨⟨_, hstyles⟩, _⟩
  have hstrong := hstyles .bold (by decide) .strong rfl
  exact absurd hstrong (by decide)

end DocTag

end DocPages
