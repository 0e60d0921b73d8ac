import DocPages.Config.Basic
import DocPages.Merge.Grouping
import DocPages.Merge.SameClassName

namespace DocPages

variable [PropertyFamily]

/-- Strategies in the order in which they are tried; each gets what the one before it leaves. -/
abbrev Chain := List Strategy

def StrategyName.strategy : StrategyName → Strategy
  | sameClassName => .sameClassName
  | default => .keep

namespace Chain

def ofConfig (config : MergeConfig) : Chain := config.strategies.map StrategyName.strategy

def names (chain : Chain) : List String := chain.map Strategy.name

/-- Runs the strategies that accept the pages, as long as more than one page is left. -/
def run (path : List String) : Chain → List Page → Except MergeError (List Page)
  | [], pages => .ok pages
  | strategy :: rest, pages =>
      if pages.length ≤ 1 then .ok pages
      else if strategy.accepts pages then do
        let merged ← strategy.merge pages path
        run path rest merged
      else run path rest pages

end Chain

namespace Page

/-- What pages have in common that clash. -/
def key (page : Page) : PageKind × String := (page.kind, page.name)

def detached (page : Page) : Page := { page with children := [] }

/-- Puts further pages after the children of a page. -/
def adopt (page : Page) (further : List Page) : Page :=
  { page with children := page.children ++ further }

/-- Gives child pages back: one list to each page if there are as many lists as pages, and
otherwise all of them to the first page. -/
def reattach (pages : List Page) (families : List (List Page)) : List Page :=
  if pages.length = families.length then List.zipWith adopt pages families
  else
    match pages with
    | [] => []
    | first :: rest => first.adopt families.flatten :: rest

end Page

namespace Chain

/-- Merges pages that clash at a path. -/
def mergeGroup (chain : Chain) (path : List String) (pages : List Page) :
    Except MergeError (List Page) := do
  let merged ← chain.run path (pages.map Page.detached)
  return Page.reattach merged (pages.map Page.children)

/-- Settles one group of the children of the page at `parent`. -/
def settle (chain : Chain) (parent : List String) (group : List Page) :
    Except MergeError (List Page) :=
  match group with
  | first :: _ :: _ => chain.mergeGroup (parent ++ [first.name]) group
  | _ => .ok group

/-- Why the merging of a tree ended early: a strategy refused, or the tree went deeper than
allowed. -/
inductive Interruption where
  | refused (error : MergeError)
  | tooDeep
deriving DecidableEq, Repr

def settled (result : Except MergeError (List Page)) : Except Interruption (List Page) :=
  result.mapError .refused

/-- Merges the tree below a page, in which no way down may be longer than `depth`. `above` are the
names of the pages on the way to it. -/
def mergeWithin (chain : Chain) : Nat → List String → Page → Except Interruption Page
  | 0, _, _ => .error .tooDeep
  | depth + 1, above, page => do
      let path := above ++ [page.name]
      let families ← (groupsBy Page.key page.children).mapM fun group => do
        let pages ← settled (chain.settle path group)
        pages.mapM (chain.mergeWithin depth path)
      return { page with children := families.flatten }

/-- Merges a whole tree. Strategies that give no children to childless pages never make it deeper
than it was. -/
def merge (chain : Chain) (root : Page) : Except Interruption Page :=
  chain.mergeWithin root.height [] root

end Chain

end DocPages
