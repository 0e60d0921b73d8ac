import DocPages.Properties
import DocPages.Text.Quoted

namespace DocPages

open Std

/-- Kinds of properties: modifiers, whether an entity is deprecated, its place among its siblings,
and the version since which it exists. -/
inductive PropertyKind where
  | modifiers
  | deprecated
  | order
  | since
deriving DecidableEq, Inhabited, Repr

namespace PropertyKind

abbrev Value : PropertyKind → Type
  | modifiers => List String
  | deprecated => Bool
  | order => Int
  | since => String

instance : (kind : PropertyKind) → DecidableEq kind.Value
  | modifiers => inferInstanceAs (DecidableEq (List String))
  | deprecated => inferInstanceAs (DecidableEq Bool)
  | order => inferInstanceAs (DecidableEq Int)
  | since => inferInstanceAs (DecidableEq String)

def name : PropertyKind → String
  | modifiers => "AdditionalModifiers"
  | deprecated => "Deprecated"
  | order => "Order"
  | since => "Since"

/-- Kinds are listed by name. -/
def compareKinds : PropertyKind → PropertyKind → Ordering := compareOn PropertyKind.ctorIdx

instance : Ord PropertyKind := ⟨compareKinds⟩

instance : TransOrd PropertyKind := inferInstanceAs (TransCmp (compareOn PropertyKind.ctorIdx))

instance : LawfulEqOrd PropertyKind where
  compare_self := ReflCmp.compare_self
  eq_of_compare {a b} h := by cases a <;> cases b <;> first | rfl | cases h

/-- One property as a diagnostic text: its kind, then its value in parentheses. -/
def describe : (kind : PropertyKind) × kind.Value → String
  | ⟨.modifiers, words⟩ =>
      "AdditionalModifiers([" ++ ", ".intercalate (words.map Text.quoted) ++ "])"
  | ⟨.deprecated, flag⟩ => if flag then "Deprecated(true)" else "Deprecated(false)"
  | ⟨.order, place⟩ => "Order(" ++ toString place ++ ")"
  | ⟨.since, version⟩ => "Since(" ++ Text.quoted version ++ ")"

end PropertyKind

instance : PropertyFamily where
  Kind := PropertyKind
  Value := PropertyKind.Value
  name := PropertyKind.name
  describe := PropertyKind.describe
  modifiers := .modifiers
  words := id

end DocPages
