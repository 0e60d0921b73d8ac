import DocPages.Content.Node
import DocPages.DocTag

namespace DocPages

variable [PropertyFamily]

/-- The attributes of converted content: all of one identity and set of platforms. -/
def commentAttrs (identity : Identity) (platforms : PlatformSet) (styles : StyleSet) : Attrs :=
  { dris := identity.dris, kind := identity.kind, platforms, styles }

namespace Markup

/-- The style that emphasis stands for. -/
def emphasis? : Markup → Option Style
  | bold => some .strong
  | italic => some .italic
  | strikethrough => some .strikethrough
  | _ => none

/-- The styles that an element hands to its children, of those it was handed itself. -/
def inherited (styles : StyleSet) : Markup → StyleSet
  | bold => styles.insert .strong
  | italic => styles.insert .italic
  | strikethrough => styles.insert .strikethrough
  | codeInline | codeBlock _ | unorderedList | orderedList => ∅
  | paragraph | link _ | documentationLink _ | listItem | custom _ => styles

/-- The content of an element, given that of its children and the styles handed to it. -/
def content (attrs : StyleSet → Attrs) (styles : StyleSet) (children : List Node) :
    Markup → List Node
  | paragraph => [.group ⟨children, attrs (Keyed.singleton .paragraph)⟩]
  | bold => [.group ⟨children, attrs (inherited styles bold)⟩]
  | italic => [.group ⟨children, attrs (inherited styles italic)⟩]
  | strikethrough => [.group ⟨children, attrs (inherited styles strikethrough)⟩]
  | codeInline => [.code children "" false (attrs ∅)]
  | codeBlock language => [.code children language true (attrs ∅)]
  | link address => [.resolvedLink children address (attrs styles)]
  | documentationLink address => [.driLink children address (attrs styles)]
  | unorderedList => [.list children false (attrs ∅)]
  | orderedList => [.list children true (attrs ∅)]
  | listItem => [.group ⟨children, attrs styles⟩]
  | custom _ => children

end Markup

namespace DocTag

mutual

/-- The content of a tag that is handed some styles from around it. -/
def contentIn (attrs : StyleSet → Attrs) (styles : StyleSet) : DocTag → List Node
  | text s => [.text s (attrs styles)]
  | lineBreak => [.lineBreak (attrs ∅)]
  | element markup children =>
      markup.content attrs styles (contentAllIn attrs (markup.inherited styles) children)

def contentAllIn (attrs : StyleSet → Attrs) (styles : StyleSet) : List DocTag → List Node
  | [] => []
  | tag :: rest => tag.contentIn attrs styles ++ contentAllIn attrs styles rest

end

/-- The content of a comment, all of which carries the given identity and platforms. -/
def toContent (tag : DocTag) (identity : Identity) (platforms : PlatformSet) : List Node :=
  tag.contentIn (commentAttrs identity platforms) ∅

theorem contentAllIn_eq_flatMap (attrs : StyleSet → Attrs) (styles : StyleSet)
    (tags : List DocTag) :
    contentAllIn attrs styles tags = tags.flatMap (contentIn attrs styles) := by
  induction tags with
  | nil => rfl
  | cons tag rest ih => rw [contentAllIn, ih, List.flatMap_cons]

end DocTag

end DocPages
