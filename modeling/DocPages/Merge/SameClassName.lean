import DocPages.Merge.Strategy

namespace DocPages

variable [PropertyFamily]

namespace Page

/-- The content of a page in a group of its own, with the identity of the page. -/
def classlikeSection (page : Page) : Node :=
  .group ⟨[page.content], { page.content.attrs with dris := page.dris, kind := .classlikes }⟩

/-- All platforms of some pages. -/
def platformsOf (pages : List Page) : PlatformSet :=
  Keyed.ofList (pages.flatMap fun page => page.platforms.toList)

/-- The page that stands for several pages of one class, the first of which gives the name. -/
def joined (first : Page) (pages : List Page) : Page where
  name := first.name
  kind := .classlike
  dris := first.dris
  content := .group ⟨pages.map classlikeSection,
    { dris := first.dris, platforms := platformsOf pages }⟩

end Page

namespace Strategy

def sameClassName : Strategy where
  name := "same-class-name"
  accepts pages := !pages.isEmpty && pages.all Page.isClasslike
  merge pages path :=
    match pages with
    | [] => .error (.empty (joinPath path))
    | first :: _ =>
        match pages.find? fun page => !page.isClasslike with
        | some page => .error (.notClasslike (joinPath path) page.name)
        | none => .ok [first.joined pages]

end Strategy

end DocPages
