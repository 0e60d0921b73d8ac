import DocPages.Json
import Mathlib.Data.List.Forall2
import Mathlib.Data.List.Nodup

/-!
Equality of JSON values.

The members of an object may stand in any order. Where two objects list the same keys in the same
order, each key once, this makes no difference: `same_object_iff` compares them member by member.
-/

namespace DocPages.Json

/-- Equality of values up to the order of the members of objects. -/
inductive Same : Json → Json → Prop where
  | null : Same null null
  | bool (value : Bool) : Same (bool value) (bool value)
  | number (value : Int) : Same (number value) (number value)
  | string (value : String) : Same (string value) (string value)
  | array {elements others : List Json} (h : List.Forall₂ Same elements others) :
      Same (array elements) (array others)
  | object {members arranged others : List (String × Json)} (harranged : members.Perm arranged)
      (hkeys : arranged.map Prod.fst = others.map Prod.fst)
      (hvalues : List.Forall₂ Same (arranged.map Prod.snd) (others.map Prod.snd)) :
      Same (object members) (object others)

/-- No object in a value has two members of one key. -/
inductive Unambiguous : Json → Prop where
  | null : Unambiguous null
  | bool (value : Bool) : Unambiguous (bool value)
  | number (value : Int) : Unambiguous (number value)
  | string (value : String) : Unambiguous (string value)
  | array {elements : List Json} (h : ∀ element ∈ elements, Unambiguous element) :
      Unambiguous (array elements)
  | object {members : List (String × Json)} (hkeys : (members.map Prod.fst).Nodup)
      (h : ∀ value ∈ members.map Prod.snd, Unambiguous value) : Unambiguous (object members)

attribute [simp] Unambiguous.bool Unambiguous.number Unambiguous.string

@[simp] theorem unambiguous_ofOption (s : Option String) : Unambiguous (ofOption s) := by
  cases s with
  | none => exact .null
  | some s => exact .string s

@[simp] theorem unambiguous_array_iff {elements : List Json} :
    Unambiguous (array elements) ↔ ∀ element ∈ elements, Unambiguous element := by
  constructor
  · rintro ⟨⟩
    assumption
  · exact .array

/-- Whether the values of all members of a list are unambiguous. -/
def UnambiguousValues (members : List (String × Json)) : Prop :=
  ∀ value ∈ members.map Prod.snd, Unambiguous value

@[simp] theorem unambiguousValues_nil : UnambiguousValues [] := nofun

@[simp] theorem unambiguousValues_cons {key : String} {value : Json}
    {members : List (String × Json)} : UnambiguousValues ((key, value) :: members) ↔
      Unambiguous value ∧ UnambiguousValues members :=
  List.forall_mem_cons

theorem unambiguous_object_iff {members : List (String × Json)} : Unambiguous (object members) ↔
    (members.map Prod.fst).Nodup ∧ UnambiguousValues members := by
  constructor
  · rintro ⟨⟩
    constructor <;> assumption
  · rintro ⟨hkeys, hvalues⟩
    exact .object hkeys hvalues

@[simp] theorem same_bool_iff {a b : Bool} : Same (bool a) (bool b) ↔ a = b := by
  constructor
  · rintro ⟨⟩
    rfl
  · rintro rfl
    exact .bool a

@[simp] theorem same_number_iff {a b : Int} : Same (number a) (number b) ↔ a = b := by
  constructor
  · rintro ⟨⟩
    rfl
  · rintro rfl
    exact .number a

@[simp] theorem same_string_iff {a b : String} : Same (string a) (string b) ↔ a = b := by
  constructor
  · rintro ⟨⟩
    rfl
  · rintro rfl
    exact .string a

@[simp] theorem same_ofOption_iff {a b : Option String} :
    Same (ofOption a) (ofOption b) ↔ a = b := by
  cases a with
  | none =>
      cases b with
      | none => exact iff_of_true .null rfl
      | some b => exact iff_of_false nofun nofun
  | some a =>
      cases b with
      | none => exact iff_of_false nofun nofun
      | some b => rw [ofOption, ofOption, same_string_iff, Option.some.injEq]

@[simp] theorem not_same_string_object {s : String} {members : List (String × Json)} :
    ¬ Same (string s) (object members) := nofun

@[simp] theorem not_same_object_string {s : String} {members : List (String × Json)} :
    ¬ Same (object members) (string s) := nofun

theorem same_array_iff {elements others : List Json} :
    Same (array elements) (array others) ↔ List.Forall₂ Same elements others := by
  constructor
  · rintro ⟨⟩
    assumption
  · exact .array

theorem same_array_map_iff {α β : Type} {write : α → Json} {view : α → β} {as bs : List α}
    (h : ∀ a ∈ as, ∀ b, Same (write a) (write b) ↔ view a = view b) :
    Same (array (as.map write)) (array (bs.map write)) ↔ as.map view = bs.map view := by
  rw [same_array_iff]
  induction as generalizing bs with
  | nil => cases bs <;> simp
  | cons a rest ih =>
      rw [List.forall_mem_cons] at h
      cases bs with
      | nil => simp
      | cons b others =>
          rw [List.map_cons, List.map_cons, List.forall₂_cons, h.1 b, ih h.2, List.map_cons,
            List.map_cons, List.cons.injEq]

/-- Whether the values of two lists of members are equal, one by one, whatever their keys are. -/
def SameValues (members others : List (String × Json)) : Prop :=
  List.Forall₂ Same (members.map Prod.snd) (others.map Prod.snd)

@[simp] theorem sameValues_nil : SameValues [] [] := .nil

@[simp] theorem sameValues_cons {key key' : String} {value value' : Json}
    {members others : List (String × Json)} :
    SameValues ((key, value) :: members) ((key', value') :: others) ↔
      Same value value' ∧ SameValues members others :=
  List.forall₂_cons

variable {members others : List (String × Json)}

theorem same_member (h : Same (object members) (object others))
    (hnodup : (others.map Prod.fst).Nodup) {key : String} {value other : Json}
    (hvalue : (key, value) ∈ members) (hother : (key, other) ∈ others) : Same value other := by
  cases h with
  | object harranged hkeys hvalues =>
      obtain ⟨i, hi, hget⟩ := List.getElem_of_mem (harranged.mem_iff.mp hvalue)
      have hlength := congrArg List.length hkeys
      rw [List.length_map, List.length_map] at hlength
      have hi' : i < others.length := hlength ▸ hi
      have hkey := List.getElem_of_eq hkeys (by simpa using hi)
      rw [List.getElem_map, List.getElem_map, hget] at hkey
      have hsame := hvalues.get (by simpa using hi) (by simpa using hi')
      simp only [List.get_eq_getElem, List.getElem_map, hget] at hsame
      have heq : others[i] = (key, other) :=
        List.inj_on_of_nodup_map hnodup (List.getElem_mem hi') hother hkey.symm
      rwa [heq] at hsame

theorem eq_of_perm_of_keys_eq (hperm : members.Perm others)
    (hkeys : members.map Prod.fst = others.map Prod.fst) (hnodup : (members.map Prod.fst).Nodup) :
    members = others := by
  apply List.ext_getElem hperm.length_eq
  intro i hi hi'
  apply List.inj_on_of_nodup_map hnodup (List.getElem_mem hi)
    (hperm.mem_iff.mpr (List.getElem_mem hi'))
  have hget := List.getElem_of_eq hkeys (by simpa using hi)
  rwa [List.getElem_map, List.getElem_map] at hget

theorem same_object_iff (hkeys : members.map Prod.fst = others.map Prod.fst)
    (hnodup : (members.map Prod.fst).Nodup) :
    Same (object members) (object others) ↔ SameValues members others := by
  constructor
  · intro h
    cases h with
    | object harranged hkeys' hvalues =>
        rwa [eq_of_perm_of_keys_eq harranged (hkeys.trans hkeys'.symm) hnodup]
  · exact .object (List.Perm.refl members) hkeys

end DocPages.Json
