import DocPages.Content.Node
import DocPages.Documentable

namespace DocPages

inductive PageKind where
  | module
  | package
  | classlike
  | member
deriving DecidableEq, Inhabited, Repr

/-- A page and the pages below it. A page that stands for no single source entity has no
documentable. -/
structure Page [PropertyFamily] where
  name : String
  kind : PageKind
  dris : DriSet
  content : Node
  documentable : Option Documentable := none
  resources : List String := []
  children : List Page := []
deriving Inhabited

namespace Page

variable [PropertyFamily]

def platforms (page : Page) : PlatformSet := page.content.platforms

def isClasslike (page : Page) : Bool := page.kind == .classlike

mutual

/-- The number of pages on the longest way down, the page itself counted. -/
def height : Page → Nat
  | ⟨_, _, _, _, _, _, children⟩ => heightAll children + 1

/-- The height of the highest of some pages. -/
def heightAll : List Page → Nat
  | [] => 0
  | page :: rest => max page.height (heightAll rest)

end

end Page

end DocPages
