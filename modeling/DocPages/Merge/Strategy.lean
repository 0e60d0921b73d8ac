import DocPages.Page

namespace DocPages

variable [PropertyFamily]

/-- Why a strategy cannot merge the pages it is given at a path. -/
inductive MergeError where
  | empty (path : String)
  | notClasslike (path : String) (name : String)
deriving DecidableEq, Repr

def MergeError.message : MergeError → String
  | empty path => "no pages to merge at `" ++ path ++ "`"
  | notClasslike path name =>
      "page `" ++ name ++ "` at `" ++ path ++ "` is not class-like and cannot be merged"

/-- The names on the way down to a page, parted by slashes. -/
def joinPath (path : List String) : String := "/".intercalate path

/-- A way to put pages that clash at a path into a merged form. Pages that it does not accept are
left to the strategies after it. -/
structure Strategy where
  name : String
  accepts : List Page → Bool := fun pages => !pages.isEmpty
  merge : List Page → List String → Except MergeError (List Page)

namespace Strategy

/-- Keeps all pages as they are. -/
def keep : Strategy where
  name := "default"
  merge pages _ := .ok pages

end Strategy

end DocPages
