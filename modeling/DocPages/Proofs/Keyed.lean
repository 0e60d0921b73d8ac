import DocPages.Keyed
import Mathlib.Data.Set.Card

namespace DocPages

open Std

namespace Keyed

variable {α κ : Type} [Ord κ] [TransOrd κ] {key : α → κ} {x y : α} {xs ys : List α}

/-- What stands at a key in a list of entries. -/
def entryAt? (key : α → κ) (entries : List α) (k : κ) : Option α :=
  entries.find? fun a => compare (key a) k == .eq

omit [TransOrd κ] in
theorem find?_eq_entryAt? (entries : Keyed key) (k : κ) :
    entries.find? k = entryAt? key entries.toList k :=
  rfl

omit [TransOrd κ] in
@[simp] theorem entryAt?_nil (k : κ) : entryAt? key [] k = none := rfl

omit [TransOrd κ] in
theorem entryAt?_cons (x : α) (xs : List α) (k : κ) :
    entryAt? key (x :: xs) k =
      if compare (key x) k = .eq then some x else entryAt? key xs k := by
  by_cases h : compare (key x) k = .eq <;> simp [entryAt?, h]

theorem entryAt?_tail_eq_none {k : κ} (h : Ascending key (x :: xs))
    (hk : compare (key x) k = .eq) : entryAt? key xs k = none :=
  find?_tail_eq_none h hk

theorem entryAt?_eq_none_of_lt_head {k : κ} (h : Ascending key (x :: xs))
    (hk : compare k (key x) = .lt) : entryAt? key (x :: xs) k = none := by
  refine List.find?_eq_none.mpr ?_
  intro a ha
  have hlt : compare k (key a) = .lt := by
    rcases List.mem_cons.mp ha with rfl | ha
    · exact hk
    · exact TransCmp.lt_trans hk ((List.pairwise_cons.mp h).1 a ha)
  simp [OrientedCmp.gt_iff_lt.mpr hlt]

variable [BEq α]

theorem compare_head_eq (hx : Ascending key (x :: xs)) (hy : Ascending key (y :: ys))
    (h : ∀ k, (entryAt? key (x :: xs) k == entryAt? key (y :: ys) k) = true) :
    compare (key x) (key y) = .eq := by
  cases hcompare : compare (key x) (key y) with
  | eq => rfl
  | lt =>
      have hatx := h (key x)
      rw [entryAt?_eq_none_of_lt_head hy hcompare] at hatx
      simp [entryAt?_cons] at hatx
  | gt =>
      have haty := h (key y)
      rw [entryAt?_eq_none_of_lt_head hx (OrientedCmp.gt_iff_lt.mp hcompare)] at haty
      simp [entryAt?_cons] at haty

/-- Where equal entries have equal keys, ascending lists are equal entry by entry exactly if they
have equal entries at every key. -/
theorem beq_iff_entryAt? (hkey : ∀ a b : α, (a == b) = true → compare (key a) (key b) = .eq)
    (hx : Ascending key xs) (hy : Ascending key ys) :
    (xs == ys) = true ↔ ∀ k, (entryAt? key xs k == entryAt? key ys k) = true := by
  induction xs generalizing ys with
  | nil =>
      cases ys with
      | nil => simp
      | cons y ys =>
          refine iff_of_false (by simp) ?_
          intro h
          simpa [entryAt?_cons] using h (key y)
  | cons x xs ih =>
      cases ys with
      | nil =>
          refine iff_of_false (by simp) ?_
          intro h
          simpa [entryAt?_cons] using h (key x)
      | cons y ys =>
          have htails := ih (List.pairwise_cons.mp hx).2 (List.pairwise_cons.mp hy).2
          rw [List.cons_beq_cons, Bool.and_eq_true, htails]
          constructor
          · rintro ⟨hxy, hrest⟩ k
            rw [entryAt?_cons, entryAt?_cons, compare_congr_left (hkey x y hxy)]
            split
            · exact hxy
            · exact hrest k
          · intro h
            have hhead := compare_head_eq hx hy h
            simp only [entryAt?_cons, compare_congr_left hhead] at h
            refine ⟨by simpa using h (key y), ?_⟩
            intro k
            by_cases hk : compare (key y) k = .eq
            · rw [entryAt?_tail_eq_none hy hk,
                entryAt?_tail_eq_none hx ((compare_congr_left hhead).trans hk)]
              rfl
            · simpa only [if_neg hk] using h k

end Keyed

theorem OrderedSet.encard_mem {α : Type} [Ord α] [TransOrd α] [LawfulEqOrd α]
    (elements : OrderedSet α) : {x | x ∈ elements}.encard = elements.size := by
  classical
  have hset : {x | x ∈ elements} = elements.toList.toFinset := by
    ext x
    rw [Finset.mem_coe, List.mem_toFinset]
    rfl
  rw [hset, Set.encard_coe_eq_coe_finsetCard,
    List.toFinset_card_of_nodup (Keyed.nodup_of_ascending elements.ascending), Keyed.size]

theorem map_mk_beq_map_mk {β κ : Type} [BEq κ] [ReflBEq κ] [BEq β] (k : κ)
    (v w : Option β) : (v.map (Prod.mk k) == w.map (Prod.mk k)) = (v == w) := by
  match v, w with
  | none, none => rfl
  | none, some _ => rfl
  | some _, none => rfl
  | some v, some w =>
      show ((k == k) && (v == w)) = (v == w)
      rw [BEq.rfl, Bool.true_and]

namespace OrderedMap

variable {β κ : Type} [Ord κ] [TransOrd κ] [LawfulEqOrd κ]

theorem encard_present (entries : OrderedMap κ β) :
    {k | (entries.get? k).isSome}.encard = entries.size := by
  have hkeys : {k | (entries.get? k).isSome} = {k | k ∈ entries.keys} := by
    ext k
    exact mem_keys_iff.symm
  rw [hkeys, OrderedSet.encard_mem, Keyed.size, toList_keys, List.length_map, Keyed.size]

theorem toList_beq_iff_get? [BEq κ] [LawfulBEq κ] [BEq β] (entries others : OrderedMap κ β) :
    (entries.toList == others.toList) = true ↔
      ∀ k, (entries.get? k == others.get? k) = true := by
  have hkey : ∀ a b : κ × β, (a == b) = true → compare a.1 b.1 = .eq := by
    intro a b hab
    exact Std.compare_eq_iff_eq.mpr (eq_of_beq (Bool.and_eq_true_iff.mp hab).1)
  rw [Keyed.beq_iff_entryAt? hkey entries.ascending others.ascending]
  refine forall_congr' fun k => ?_
  rw [← Keyed.find?_eq_entryAt?, ← Keyed.find?_eq_entryAt?, find?_eq_map_get?, find?_eq_map_get?,
    map_mk_beq_map_mk]

end OrderedMap

end DocPages
