import DocPages.PropertyKind
import Mathlib.Data.Set.Card
import Mathlib.Logic.Function.Basic

namespace DocPages

open Std

instance equivBEq_option {α : Type} [BEq α] [EquivBEq α] : EquivBEq (Option α) where
  symm {x y} h := by
    match x, y with
    | none, none => rfl
    | some a, some b =>
        have hab : (a == b) = true := h
        show (b == a) = true
        exact BEq.symm hab
  trans {x y z} hxy hyz := by
    match x, y, z with
    | none, none, none => rfl
    | some a, some b, some c =>
        have hab : (a == b) = true := hxy
        have hbc : (b == c) = true := hyz
        show (a == c) = true
        exact BEq.trans hab hbc

section options

variable {α : Type} [BEq α] {x x' y y' : Option α}

theorem exists_of_some_beq {a : α} (h : (some a == y) = true) :
    ∃ b, y = some b ∧ (a == b) = true := by
  match y with
  | some b => exact ⟨b, rfl, h⟩

theorem isSome_eq_of_beq (h : (x == y) = true) : x.isSome = y.isSome := by
  match x, y with
  | none, none => rfl
  | some _, some _ => rfl

theorem or_beq_or (hx : (x == x') = true) (hy : (y == y') = true) :
    (x.or y == x'.or y') = true := by
  match x, x' with
  | none, none =>
      rw [Option.none_or, Option.none_or]
      exact hy
  | some a, some b => exact hx

end options

namespace PropertyMap

variable {κ : Type} [Ord κ] [DecidableEq κ] {V : κ → Type}

/-- How a map comes about. -/
inductive History (V : κ → Type) where
  | empty
  | put (before : History V) (k : κ) (value : V k)
  | without (before : History V) (k : κ)
  | merge (first second : History V)

/-- What is left of each kind after some changes. -/
def History.value? : History V → (k : κ) → Option (V k)
  | empty => fun _ => none
  | put before k value => Function.update before.value? k (some value)
  | without before k => Function.update before.value? k none
  | merge first second => fun k => (second.value? k).or (first.value? k)

variable [TransOrd κ]

def History.build : History V → PropertyMap V
  | empty => ∅
  | put before k value => before.build.put k value
  | without before k => before.build.without k
  | merge first second => first.build.merge second.build

variable [LawfulEqOrd κ] {a b c d : PropertyMap V}

omit [TransOrd κ] in
theorem find?_eq_map_get? (a : PropertyMap V) (k : κ) :
    a.find? k = (a.get? k).map (Sigma.mk k) := by
  cases hfind : a.find? k with
  | none => simp [get?, hfind]
  | some property =>
      obtain ⟨j, value⟩ := property
      have hj : j = k := by simpa using List.find?_some hfind
      subst hj
      simp [get?, hfind]

theorem ext_get? (h : ∀ k, a.get? k = b.get? k) : a = b := by
  apply Keyed.ext_find?
  intro k
  rw [find?_eq_map_get?, find?_eq_map_get?, h]

theorem mem_iff_get? {k : κ} {value : V k} : ⟨k, value⟩ ∈ a ↔ a.get? k = some value := by
  rw [Keyed.mem_iff_find?, find?_eq_map_get?, Option.map_eq_some_iff]
  constructor
  · rintro ⟨found, hfound, heq⟩
    cases heq
    exact hfound
  · intro h
    exact ⟨value, h, rfl⟩

theorem get?_put (a : PropertyMap V) (k : κ) (value : V k) :
    (a.put k value).get? = Function.update a.get? k (some value) := by
  funext j
  by_cases hj : k = j
  · subst hj
    rw [get?_put_self, Function.update_self]
  · rw [get?_put_of_ne a value hj, Function.update_of_ne (Ne.symm hj)]

theorem get?_without (a : PropertyMap V) (k : κ) :
    (a.without k).get? = Function.update a.get? k none := by
  funext j
  by_cases hj : k = j
  · subst hj
    rw [get?_without_self, Function.update_self]
  · rw [get?_without_of_ne a hj, Function.update_of_ne (Ne.symm hj)]

omit [TransOrd κ] [LawfulEqOrd κ] in
theorem get?_empty (k : κ) : (∅ : PropertyMap V).get? k = none := rfl

theorem History.get?_build (history : History V) : history.build.get? = history.value? := by
  induction history with
  | empty => rfl
  | put before k value ih => rw [build, get?_put, ih, value?]
  | without before k ih => rw [build, get?_without, ih, value?]
  | merge first second ihfirst ihsecond =>
      funext k
      rw [build, get?_merge, ihfirst, ihsecond, value?]

section counting

/-- The kinds that have a value. -/
def present (a : PropertyMap V) : Set κ := {k | (a.get? k).isSome}

omit [TransOrd κ] [LawfulEqOrd κ] in
theorem mem_present_iff {k : κ} : k ∈ a.present ↔ ∃ value, a.get? k = some value :=
  Option.isSome_iff_exists

theorem encard_present (a : PropertyMap V) : a.present.encard = a.size := by
  let kinds := a.toList.map Sigma.fst
  have hnodup : kinds.Nodup := by
    refine List.pairwise_map.mpr (a.ascending.imp ?_)
    intro first second hlt hkinds
    rw [hkinds] at hlt
    simp at hlt
  have hkinds : a.present = kinds.toFinset := by
    ext k
    rw [mem_present_iff, Finset.mem_coe, List.mem_toFinset, List.mem_map]
    constructor
    · rintro ⟨value, hvalue⟩
      exact ⟨⟨k, value⟩, mem_iff_get?.mpr hvalue, rfl⟩
    · rintro ⟨⟨k, value⟩, hmem, rfl⟩
      exact ⟨value, mem_iff_get?.mp hmem⟩
  rw [hkinds, Set.encard_coe_eq_coe_finsetCard, List.toFinset_card_of_nodup hnodup, Keyed.size,
    List.length_map]

/-- A map without more properties has no kind that another does not have, if it has all of the
other's. -/
theorem present_eq_of_subset (hsubset : a.present ⊆ b.present) (hsize : a.size = b.size) :
    a.present = b.present := by
  have hcard : b.present.encard = a.present.encard := by
    rw [encard_present, encard_present, hsize]
  have hfinite : a.present.Finite := by
    apply Set.finite_of_encard_eq_coe
    exact encard_present a
  exact hfinite.eq_of_subset_of_encard_le hsubset hcard.le

theorem size_eq_of_present_eq (h : a.present = b.present) : a.size = b.size := by
  have hcard : (a.size : ℕ∞) = b.size := by
    rw [← encard_present, ← encard_present, h]
  exact Nat.cast_inj.mp hcard

end counting

section equality

variable [∀ k, BEq (V k)]

omit [Ord κ] [TransOrd κ] [LawfulEqOrd κ] in
theorem sameProperty_mk (k : κ) (v w : V k) : sameProperty ⟨k, v⟩ ⟨k, w⟩ = (v == w) := by
  simp [sameProperty]

theorem sameProperties_eq_true_iff : a.sameProperties b = true ↔
    a.size = b.size ∧ ∀ k v, a.get? k = some v → ∃ w, b.get? k = some w ∧ (v == w) = true := by
  have hlookup (k : κ) (v : V k) : (b.find? k).any (sameProperty ⟨k, v⟩) = true ↔
      ∃ w, b.get? k = some w ∧ (v == w) = true := by
    rw [find?_eq_map_get?, Option.any_map, Option.any_eq_true]
    simp only [sameProperty_mk]
  rw [sameProperties, Bool.and_eq_true, beq_iff_eq, List.all_eq_true]
  refine and_congr_right fun _ => ?_
  constructor
  · intro h k v hv
    exact (hlookup k v).mp (h ⟨k, v⟩ (mem_iff_get?.mpr hv))
  · rintro h ⟨k, v⟩ hmem
    exact (hlookup k v).mpr (h k v (mem_iff_get?.mp hmem))

theorem sameProperties_iff : a.sameProperties b = true ↔ ∀ k, (a.get? k == b.get? k) = true := by
  rw [sameProperties_eq_true_iff]
  constructor
  · rintro ⟨hsize, h⟩ k
    have hsubset : a.present ⊆ b.present := by
      intro j hj
      obtain ⟨v, hv⟩ := mem_present_iff.mp hj
      obtain ⟨w, hw, _⟩ := h j v hv
      exact mem_present_iff.mpr ⟨w, hw⟩
    cases ha : a.get? k with
    | some v =>
        obtain ⟨w, hw, hvw⟩ := h k v ha
        rw [hw]
        exact hvw
    | none =>
        cases hb : b.get? k with
        | none => rfl
        | some w =>
            have hk : k ∈ a.present := by
              rw [present_eq_of_subset hsubset hsize]
              exact mem_present_iff.mpr ⟨w, hb⟩
            obtain ⟨v, hv⟩ := mem_present_iff.mp hk
            rw [ha] at hv
            cases hv
  · intro h
    have hpresent : a.present = b.present := by
      ext k
      rw [present, present, Set.mem_ofPred_eq, Set.mem_ofPred_eq, isSome_eq_of_beq (h k)]
    refine ⟨size_eq_of_present_eq hpresent, ?_⟩
    intro k v hv
    exact exists_of_some_beq (hv ▸ h k)

omit [Ord κ] [TransOrd κ] [LawfulEqOrd κ] in
theorem update_beq_update {f g : (k : κ) → Option (V k)} (h : ∀ k, (f k == g k) = true) {k : κ}
    {x y : Option (V k)} (hxy : (x == y) = true) (j : κ) :
    (Function.update f k x j == Function.update g k y j) = true := by
  by_cases hj : j = k
  · subst hj
    rwa [Function.update_self, Function.update_self]
  · rw [Function.update_of_ne hj, Function.update_of_ne hj]
    exact h j

theorem sameProperties_put (h : a.sameProperties b = true) {k : κ} {v w : V k}
    (hvw : (v == w) = true) : (a.put k v).sameProperties (b.put k w) = true := by
  rw [sameProperties_iff] at h ⊢
  rw [get?_put, get?_put]
  exact update_beq_update h hvw

theorem sameProperties_without (h : a.sameProperties b = true) (k : κ) :
    (a.without k).sameProperties (b.without k) = true := by
  rw [sameProperties_iff] at h ⊢
  rw [get?_without, get?_without]
  exact update_beq_update h rfl

theorem sameProperties_merge (hab : a.sameProperties b = true) (hcd : c.sameProperties d = true) :
    (a.merge c).sameProperties (b.merge d) = true := by
  rw [sameProperties_iff] at hab hcd ⊢
  intro k
  rw [get?_merge, get?_merge]
  exact or_beq_or (hcd k) (hab k)

end equality

theorem merge_assoc (a b c : PropertyMap V) : (a.merge b).merge c = a.merge (b.merge c) := by
  apply ext_get?
  intro k
  simp only [get?_merge, Option.or_assoc]

theorem merge_self (a : PropertyMap V) : a.merge a = a := by
  apply ext_get?
  intro k
  rw [get?_merge, Option.or_self]

theorem empty_merge (a : PropertyMap V) : (∅ : PropertyMap V).merge a = a := by
  apply ext_get?
  intro k
  rw [get?_merge, get?_empty, Option.or_none]

theorem merge_empty (a : PropertyMap V) : a.merge ∅ = a := by
  apply ext_get?
  intro k
  rw [get?_merge, get?_empty, Option.none_or]

theorem put_eq_merge (a : PropertyMap V) (k : κ) (v : V k) :
    a.put k v = a.merge ((∅ : PropertyMap V).put k v) := by
  apply ext_get?
  intro j
  rw [get?_merge, get?_put, get?_put]
  by_cases hj : j = k
  · subst hj
    simp only [Function.update_self, Option.some_or]
  · simp only [Function.update_of_ne hj, get?_empty, Option.none_or]

/-- Maps compare equal exactly if they hold equal values of every kind. So the comparison is an
equivalence that sees nothing of how the maps came about, and all changes respect it. A merged map
holds what the second map holds, and what the first holds elsewhere. Merging is associative and
idempotent, leaves a map as it is beside the empty one, and puts a property there as a map of this
property alone does. A map has as many properties as kinds have a value. -/
theorem extensionality [∀ k, BEq (V k)] [∀ k, EquivBEq (V k)] :
    (∀ a b : PropertyMap V,
      a.sameProperties b = true ↔ ∀ k, (a.get? k == b.get? k) = true) ∧
    Equivalence (fun a b : PropertyMap V => a.sameProperties b = true) ∧
    (∀ history : History V, history.build.get? = history.value? ∧
      history.build.size = {k | (history.value? k).isSome}.encard) ∧
    (∀ first second : History V, first.build.sameProperties second.build = true ↔
      ∀ k, (first.value? k == second.value? k) = true) ∧
    (∀ a b c d : PropertyMap V, a.sameProperties b = true → c.sameProperties d = true →
      (∀ k (v w : V k), (v == w) = true → (a.put k v).sameProperties (b.put k w) = true) ∧
      (∀ k, (a.without k).sameProperties (b.without k) = true) ∧
      (a.merge c).sameProperties (b.merge d) = true) ∧
    (∀ (a b : PropertyMap V) (k : κ), (a.merge b).get? k = (b.get? k).or (a.get? k)) ∧
    (∀ a b c : PropertyMap V, (a.merge b).merge c = a.merge (b.merge c)) ∧
    (∀ a : PropertyMap V,
      a.merge a = a ∧ (∅ : PropertyMap V).merge a = a ∧ a.merge ∅ = a) ∧
    ∀ (a : PropertyMap V) (k : κ) (v : V k),
      a.put k v = a.merge ((∅ : PropertyMap V).put k v) := by
  refine ⟨fun a b => sameProperties_iff, ?_, ?_, ?_, ?_, get?_merge, merge_assoc, ?_, put_eq_merge⟩
  · constructor
    · intro a
      rw [sameProperties_iff]
      exact fun k => BEq.rfl
    · intro a b hab
      rw [sameProperties_iff] at hab ⊢
      exact fun k => BEq.symm (hab k)
    · intro a b c hab hbc
      rw [sameProperties_iff] at hab hbc ⊢
      exact fun k => BEq.trans (hab k) (hbc k)
  · intro history
    refine ⟨history.get?_build, ?_⟩
    rw [← encard_present, present, history.get?_build]
  · intro first second
    rw [sameProperties_iff, first.get?_build, second.get?_build]
  · intro a b c d hab hcd
    exact ⟨fun k v w hvw => sameProperties_put hab hvw, sameProperties_without hab,
      sameProperties_merge hab hcd⟩
  · intro a
    exact ⟨merge_self a, empty_merge a, merge_empty a⟩

theorem extensionality_rewrittenVersion :
    let first : History PropertyKind.Value :=
      .merge (.put .empty .since "1.0") (.put .empty .deprecated true)
    let outdated : History PropertyKind.Value := .put (.put .empty .deprecated true) .since "0.9"
    let second : History PropertyKind.Value := .put (.without outdated .since) .since "1.0"
    (∀ kind : PropertyKind, EquivBEq kind.Value) ∧
      first.build.sameProperties second.build = true := by
  intro first outdated second
  have hequiv : ∀ kind : PropertyKind, EquivBEq kind.Value := fun _ => inferInstance
  obtain ⟨_, _, _, hhistories, _⟩ := extensionality (V := PropertyKind.Value)
  refine ⟨hequiv, (hhistories first second).mpr ?_⟩
  intro kind
  cases kind <;> rfl

end PropertyMap

end DocPages
