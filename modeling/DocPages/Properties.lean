import DocPages.PropertyMap

namespace DocPages

open Std

/-- The kinds of properties that documentables and content nodes carry beside their fixed fields.
Whoever extends the library brings along kinds of their own; the library itself reads modifiers. -/
class PropertyFamily where
  Kind : Type
  Value : Kind → Type
  [ord : Ord Kind]
  [transOrd : TransOrd Kind]
  [lawfulEqOrd : LawfulEqOrd Kind]
  [decidableEqKind : DecidableEq Kind]
  [decidableEqValue : ∀ kind, DecidableEq (Value kind)]
  name : Kind → String
  /-- A property as a diagnostic text. -/
  describe : (kind : Kind) × Value kind → String
  modifiers : Kind
  /-- The words that modifiers consist of, such as `Inline`. -/
  words : Value modifiers → List String

attribute [reducible, instance] PropertyFamily.ord PropertyFamily.decidableEqKind
  PropertyFamily.decidableEqValue
attribute [instance] PropertyFamily.transOrd PropertyFamily.lawfulEqOrd

variable [family : PropertyFamily]

/-- Two properties are compared by kind, and by value within a kind. -/
instance : DecidableEq ((kind : family.Kind) × family.Value kind)
  | ⟨j, a⟩, ⟨k, b⟩ =>
      if h : j = k then decidable_of_iff (h ▸ a = b) (by subst h; simp)
      else .isFalse fun hab => h (congrArg Sigma.fst hab)

/-- The properties of one entity or node. -/
abbrev Properties := PropertyMap family.Value

namespace Properties

/-- All properties as a diagnostic text. -/
def describe (properties : Properties) : String :=
  "[" ++ ", ".intercalate (properties.toList.map family.describe) ++ "]"

/-- The kinds that have a value. -/
def kinds (properties : Properties) : List family.Kind := properties.toList.map Sigma.fst

def kindNames (properties : Properties) : List String := properties.kinds.map family.name

/-- The words of the modifiers, none if there is no such property. -/
def modifiers (properties : Properties) : List String :=
  ((properties.get? family.modifiers).map family.words).getD []

end Properties

end DocPages
