import DocPages.Dri
import DocPages.Platform
import DocPages.Properties

namespace DocPages

open Std

/-- Role of a node within a page. -/
inductive Kind where
  | main
  | comment
  | briefComment
  | classlikes
  | constructors
  | functions
  | properties
  | packages
  | symbol
  | signature
  | parameters
  | modifiers
  | annotations
  | sample
  | source
  | empty
  | custom (name : String)
deriving DecidableEq, Inhabited, Repr

namespace Kind

def customName : Kind → String
  | custom name => name
  | _ => ""

def order : Kind → Kind → Ordering := compareLex (compareOn Kind.ctorIdx) (compareOn customName)

instance : Ord Kind := ⟨order⟩

instance : TransOrd Kind := inferInstanceAs (TransCmp (compareLex _ _))

theorem eq_of_ctorIdx_of_customName {a b : Kind} (hi : a.ctorIdx = b.ctorIdx)
    (hn : a.customName = b.customName) : a = b := by
  cases a <;> cases b <;> first
    | rfl
    | exact congrArg custom hn
    | exact absurd hi (by decide)
    | exact absurd hi (Nat.ne_of_beq_eq_false rfl)

instance : LawfulEqOrd Kind where
  compare_self := ReflCmp.compare_self
  eq_of_compare {a b} h := by
    change order a b = .eq at h
    simp only [order, compareLex_eq_eq, compareOn, Std.compare_eq_iff_eq] at h
    exact eq_of_ctorIdx_of_customName h.1 h.2

end Kind

/-- Styling flag. -/
inductive Style where
  | bold
  | italic
  | strong
  | strikethrough
  | monospace
  | paragraph
  | block
  | indented
  | rowTitle
  | tabbedContent
  | withExtraAttributes
  | custom (name : String)
deriving DecidableEq, Inhabited, Repr

namespace Style

def customName : Style → String
  | custom name => name
  | _ => ""

def order : Style → Style → Ordering :=
  compareLex (compareOn Style.ctorIdx) (compareOn customName)

instance : Ord Style := ⟨order⟩

instance : TransOrd Style := inferInstanceAs (TransCmp (compareLex _ _))

theorem eq_of_ctorIdx_of_customName {a b : Style} (hi : a.ctorIdx = b.ctorIdx)
    (hn : a.customName = b.customName) : a = b := by
  cases a <;> cases b <;> first
    | rfl
    | exact congrArg custom hn
    | exact absurd hi (by decide)
    | exact absurd hi (Nat.ne_of_beq_eq_false rfl)

instance : LawfulEqOrd Style where
  compare_self := ReflCmp.compare_self
  eq_of_compare {a b} h := by
    change order a b = .eq at h
    simp only [order, compareLex_eq_eq, compareOn, Std.compare_eq_iff_eq] at h
    exact eq_of_ctorIdx_of_customName h.1 h.2

end Style

abbrev DriSet := OrderedSet Dri

abbrev StyleSet := OrderedSet Style

/-- Content identity: the entities that a node documents, and its role. -/
structure Identity where
  dris : DriSet
  kind : Kind
deriving DecidableEq, Inhabited

variable [PropertyFamily]

/-- The values that content takes over from where it is built. -/
@[ext]
structure Scope where
  dris : DriSet := ∅
  platforms : PlatformSet := ∅
  styles : StyleSet := ∅
  extra : Properties := ∅
deriving DecidableEq, Inhabited

/-- The attributes of a node: the values of its scope and its own role. -/
@[ext]
structure Attrs extends Scope where
  kind : Kind := .main
deriving DecidableEq, Inhabited

def Attrs.identity (attrs : Attrs) : Identity := ⟨attrs.dris, attrs.kind⟩

end DocPages
