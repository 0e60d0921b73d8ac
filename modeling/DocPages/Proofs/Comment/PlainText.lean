import DocPages.Content.Visible
import DocPages.Proofs.Build.Operations

namespace DocPages

variable [PropertyFamily]

/-- The text of a layer in document order, given that of its nodes; a line break is a newline. -/
def Layer.read : Layer String → String
  | text s _ => s
  | lineBreak _ => "\n"
  | layer => String.join layer.nodes

def Node.read : Node → String := Node.fold Layer.read

/-- The text of some nodes in document order. -/
def readAll (nodes : List Node) : String := String.join (nodes.map Node.read)

theorem readAll_append (front back : List Node) :
    readAll (front ++ back) = readAll front ++ readAll back := by
  rw [readAll, List.map_append, String.join_append]
  rfl

/-- Some nodes read as a text, and show something exactly if the text is not blank. -/
structure Reads (nodes : List Node) (text : String) : Prop where
  readAll_eq : readAll nodes = text
  visible_eq : nodes.any Node.hasAnyContent = !Text.isBlank text

namespace Reads

theorem nil : Reads [] "" := ⟨rfl, rfl⟩

theorem append {front back : List Node} {s t : String} (hs : Reads front s) (ht : Reads back t) :
    Reads (front ++ back) (s ++ t) := by
  constructor
  · rw [readAll_append, hs.readAll_eq, ht.readAll_eq]
  · rw [List.any_append, hs.visible_eq, ht.visible_eq, Text.isBlank_append, Bool.not_and]

theorem of_children {node : Node} {children : List Node} {text : String}
    (h : Reads children text) (hread : node.read = readAll children)
    (hvisible : node.hasAnyContent = children.any Node.hasAnyContent) : Reads [node] text := by
  constructor
  · rw [← h.readAll_eq, ← hread, readAll, List.map_singleton, String.join_cons, String.join_nil,
      String.append_empty]
  · rw [← h.visible_eq, ← hvisible, List.any_cons, List.any_nil, Bool.or_false]

theorem text (s : String) (attrs : Attrs) : Reads [.text s attrs] s := by
  constructor
  · rw [readAll, List.map_singleton, Node.read, Node.fold_mk, String.join_cons, String.join_nil,
      String.append_empty]
    rfl
  · rw [List.any_cons, Node.hasAnyContent_text, List.any_nil, Bool.or_false]

theorem lineBreak (attrs : Attrs) : Reads [.lineBreak attrs] "\n" := by
  constructor
  · rw [readAll, List.map_singleton, Node.read, Node.fold_mk, String.join_cons, String.join_nil,
      String.append_empty]
    rfl
  · rw [List.any_cons, Node.hasAnyContent_lineBreak, List.any_nil, Bool.or_false]
    rfl

theorem group {children : List Node} {text : String} (h : Reads children text) (attrs : Attrs) :
    Reads [.group ⟨children, attrs⟩] text :=
  h.of_children (Node.fold_mk _ _) (Node.hasAnyContent_group _)

theorem code {children : List Node} {text : String} (h : Reads children text) (language : String)
    (block : Bool) (attrs : Attrs) : Reads [.code children language block attrs] text :=
  h.of_children (Node.fold_mk _ _) (Node.hasAnyContent_code children language block attrs)

theorem list {children : List Node} {text : String} (h : Reads children text) (ordered : Bool)
    (attrs : Attrs) : Reads [.list children ordered attrs] text :=
  h.of_children (Node.fold_mk _ _) (Node.hasAnyContent_list children ordered attrs)

theorem driLink {children : List Node} {text : String} (h : Reads children text) (address : Dri)
    (attrs : Attrs) : Reads [.driLink children address attrs] text :=
  h.of_children (Node.fold_mk _ _) (Node.hasAnyContent_driLink children address attrs)

theorem resolvedLink {children : List Node} {text : String} (h : Reads children text)
    (address : String) (attrs : Attrs) : Reads [.resolvedLink children address attrs] text :=
  h.of_children (Node.fold_mk _ _) (Node.hasAnyContent_resolvedLink children address attrs)

theorem content {children : List Node} {text : String} (h : Reads children text)
    (attrs : StyleSet → Attrs) (styles : StyleSet) (markup : Markup) :
    Reads (markup.content attrs styles children) text := by
  cases markup with
  | paragraph => exact h.group _
  | bold => exact h.group _
  | italic => exact h.group _
  | strikethrough => exact h.group _
  | codeInline => exact h.code _ _ _
  | codeBlock language => exact h.code _ _ _
  | link address => exact h.resolvedLink _ _
  | documentationLink address => exact h.driLink _ _
  | unorderedList => exact h.list _ _
  | orderedList => exact h.list _ _
  | listItem => exact h.group _
  | custom name => exact h

end Reads

namespace DocTag

theorem reads_contentIn (attrs : StyleSet → Attrs) (styles : StyleSet) (tag : DocTag) :
    Reads (tag.contentIn attrs styles) tag.plainText := by
  induction tag using DocTag.induction generalizing styles with
  | text s => exact .text s _
  | lineBreak => exact .lineBreak _
  | element markup children ih =>
      have hall (styles : StyleSet) :
          Reads (contentAllIn attrs styles children) (plainTextAll children) := by
        induction children with
        | nil => exact .nil
        | cons tag rest ihrest =>
            rw [List.forall_mem_cons] at ih
            exact (ih.1 styles).append (ihrest ih.2)
      exact (hall _).content attrs styles markup

theorem reads_toContent (tag : DocTag) (identity : Identity) (platforms : PlatformSet) :
    Reads (tag.toContent identity platforms) tag.plainText :=
  tag.reads_contentIn _ _

/-- The content of a comment reads as the plain text of the comment, whatever it carries. In every
scope the group of a comment shows something exactly if some character of that text does. -/
theorem toContent_plainText (tag : DocTag) :
    (∀ identity platforms, readAll (tag.toContent identity platforms) = tag.plainText) ∧
      ∀ (tools : Toolkit) (params : Params) (scope : Scope) (nodes : List Node)
        (log : List Observation), ∃ group : Group,
        (Build.comment tag params).runFrom { tools with comment := toContent } ⟨scope, nodes⟩ log =
          .ok ((), ⟨scope, nodes ++ [.group group]⟩) ∧
        (group.hasAnyContent = true ↔
          ∃ c ∈ tag.plainText.toList, Text.isBlankChar c = false) := by
  constructor
  · intro identity platforms
    exact (tag.reads_toContent identity platforms).readAll_eq
  · intro tools params scope nodes log
    let attrs := params.resolve scope .comment
    refine ⟨⟨tag.toContent attrs.identity attrs.platforms, attrs⟩, rfl, ?_⟩
    have hvisible := (tag.reads_toContent attrs.identity attrs.platforms).visible_eq
    rw [GroupOf.hasAnyContent, hvisible, Text.isBlank, List.not_all_eq_any_not, List.any_eq_true]
    simp only [Bool.not_eq_true']

end DocTag

end DocPages
