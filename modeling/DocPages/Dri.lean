import DocPages.Keyed

namespace DocPages

open Std

/-- Names a package, class or member, apart from the platforms it is declared for. -/
@[ext]
structure Dri where
  packageName : Option String := none
  classNames : Option String := none
  callable : Option String := none
  extra : Option String := none
deriving DecidableEq, Inhabited, Repr

namespace Dri

/-- The identity without any segment. -/
def topLevel : Dri := {}

def package (name : String) : Dri := { packageName := some name }

/-- The order of identities: by package, then class names, callable and extra. -/
def order : Dri → Dri → Ordering :=
  compareLex (compareOn packageName) <| compareLex (compareOn classNames) <|
    compareLex (compareOn callable) (compareOn extra)

instance : Ord Dri := ⟨order⟩

instance : TransOrd Dri := inferInstanceAs (TransCmp (compareLex _ _))

instance : LawfulEqOrd Dri where
  compare_self := ReflCmp.compare_self
  eq_of_compare {a b} h := by
    change order a b = .eq at h
    simp only [order, compareLex_eq_eq, compareOn, Std.compare_eq_iff_eq] at h
    exact Dri.ext h.1 h.2.1 h.2.2.1 h.2.2.2

/-- All four segments, parted by slashes; an absent one is written as nothing. -/
def display (dri : Dri) : String :=
  let segment (s : Option String) := s.getD ""
  segment dri.packageName ++ "/" ++ segment dri.classNames ++ "/" ++ segment dri.callable ++ "/" ++
    segment dri.extra

end Dri

end DocPages
