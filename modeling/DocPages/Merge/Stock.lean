import DocPages.Merge.Strategy

namespace DocPages.Strategy

variable [PropertyFamily]

/-- Accepts all pages and merges none. -/
def refuse : Strategy where
  name := "fail"
  merge _ path := .error (.empty (joinPath path))

def drop : Strategy where
  name := "drop"
  merge _ _ := .ok []

def first : Strategy where
  name := "first"
  merge pages _ := .ok (pages.take 1)

/-- Leaves out the last page. -/
def pop : Strategy where
  name := "pop"
  merge pages _ := .ok pages.dropLast

def reverse : Strategy where
  name := "reverse"
  merge pages _ := .ok pages.reverse

/-- Lists all pages twice. -/
def double : Strategy where
  name := "double"
  merge pages _ := .ok (pages ++ pages)

/-- Notes on each page the path, the number of pages and the number of the page's children. -/
def mark : Strategy where
  name := "mark"
  merge pages path := .ok <| pages.map fun page =>
    let note := joinPath path ++ "#" ++ toString pages.length ++ "#" ++
      toString page.children.length
    { page with resources := page.resources ++ [note] }

end DocPages.Strategy
