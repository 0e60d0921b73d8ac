import DocPages.Keyed

namespace DocPages

open Std

variable {κ : Type} [Ord κ] [DecidableEq κ] {V : κ → Type}

/-- Values for some of the kinds of a family `V` of property types. -/
abbrev PropertyMap (V : κ → Type) := Keyed (Sigma.fst : (k : κ) × V k → κ)

namespace PropertyMap

/-- The value of a property, if it is one of kind `k`. -/
def valueAt (k : κ) (property : (k : κ) × V k) : Option (V k) :=
  if h : property.1 = k then some (h ▸ property.2) else none

omit [Ord κ] in
@[simp] theorem valueAt_mk (k : κ) (value : V k) : valueAt k ⟨k, value⟩ = some value := by
  simp [valueAt]

def get? (properties : PropertyMap V) (k : κ) : Option (V k) :=
  (properties.find? k).bind (valueAt k)

/-- Whether two properties are of one kind and equal there. -/
def sameProperty [∀ k, BEq (V k)] (a b : (k : κ) × V k) : Bool :=
  match valueAt a.1 b with
  | some value => a.2 == value
  | none => false

/-- Equality of maps under the equality that each kind brings along: as many properties, and each
of the first map has an equal one in the second. -/
def sameProperties [∀ k, BEq (V k)] (a b : PropertyMap V) : Bool :=
  a.size == b.size &&
    a.toList.all fun property => (b.find? property.1).any (sameProperty property)

/-- Takes out the value of one kind. -/
def without (properties : PropertyMap V) (k : κ) : PropertyMap V := properties.erase k

variable [TransOrd κ]

/-- Adds a value, in the stead of an old one of the same kind. -/
def put (properties : PropertyMap V) (k : κ) (value : V k) : PropertyMap V :=
  properties.insert ⟨k, value⟩

/-- The properties of both maps; those of the second win. -/
def merge (a b : PropertyMap V) : PropertyMap V := a ∪ b

variable [LawfulEqOrd κ]

theorem get?_merge (a b : PropertyMap V) (k : κ) :
    (a.merge b).get? k = (b.get? k).or (a.get? k) := by
  simp only [get?, merge, Keyed.find?_union]
  cases h : b.find? k with
  | none => rfl
  | some property =>
      have hk : property.1 = k := by
        simpa using List.find?_some h
      simp [valueAt, hk]

theorem get?_put_self (properties : PropertyMap V) (k : κ) (value : V k) :
    (properties.put k value).get? k = some value := by
  simp [get?, put, Keyed.find?_insert]

theorem get?_put_of_ne (properties : PropertyMap V) {j k : κ} (value : V j) (h : j ≠ k) :
    (properties.put j value).get? k = properties.get? k := by
  simp [get?, put, Keyed.find?_insert, h]

theorem get?_without_self (properties : PropertyMap V) (k : κ) :
    (properties.without k).get? k = none := by
  simp [get?, without, Keyed.find?_erase]

theorem get?_without_of_ne (properties : PropertyMap V) {j k : κ} (h : j ≠ k) :
    (properties.without j).get? k = properties.get? k := by
  simp [get?, without, Keyed.find?_erase, h]

end PropertyMap

end DocPages
