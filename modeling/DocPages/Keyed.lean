/-!
Finite collections with at most one entry for each key, kept in ascending key order.

A set is the case where an entry is its own key, a map the case where the key is the first half
of a pair. The order is part of the type, so two collections with the same entries are the same
collection: `Keyed.ext_find?` says that a collection is determined by what it finds at each key.
-/

namespace DocPages

open Std

variable {α κ : Type} [Ord κ] {key : α → κ}

theorem compare_congr_left [TransOrd κ] {a b c : κ} (h : compare a b = .eq) :
    compare a c = compare b c :=
  TransCmp.congr_left h

theorem compare_congr_right [TransOrd κ] {a b c : κ} (h : compare b c = .eq) :
    compare a b = compare a c :=
  TransCmp.congr_right h

/-- Each entry stands strictly before all that follow it. -/
def Ascending (key : α → κ) (entries : List α) : Prop :=
  entries.Pairwise fun a b => compare (key a) (key b) = .lt

/-- Puts an entry at its place in an ascending list, in the stead of one with the same key. -/
def insertAscending (key : α → κ) (a : α) : List α → List α
  | [] => [a]
  | b :: rest =>
      match compare (key a) (key b) with
      | .lt => a :: b :: rest
      | .eq => a :: rest
      | .gt => b :: insertAscending key a rest

theorem mem_insertAscending {a x : α} {entries : List α} (h : x ∈ insertAscending key a entries) :
    x = a ∨ x ∈ entries := by
  induction entries with
  | nil => simpa [insertAscending] using h
  | cons b rest ih =>
      simp only [insertAscending] at h
      split at h
      · simpa using h
      · rcases List.mem_cons.mp h with h | h
        · exact Or.inl h
        · exact Or.inr (List.mem_cons_of_mem b h)
      · rcases List.mem_cons.mp h with h | h
        · exact Or.inr (h ▸ List.mem_cons_self)
        · exact (ih h).imp_right (List.mem_cons_of_mem b)

theorem ascending_insertAscending [TransOrd κ] (a : α) {entries : List α}
    (h : Ascending key entries) : Ascending key (insertAscending key a entries) := by
  induction entries with
  | nil => simp [insertAscending, Ascending]
  | cons b rest ih =>
      obtain ⟨hb, hrest⟩ := List.pairwise_cons.mp h
      simp only [insertAscending]
      split
      · rename_i hab
        refine List.pairwise_cons.mpr ⟨fun x hx => ?_, h⟩
        rcases List.mem_cons.mp hx with rfl | hx
        · exact hab
        · exact TransCmp.lt_trans hab (hb x hx)
      · rename_i hab
        refine List.pairwise_cons.mpr ⟨fun x hx => ?_, hrest⟩
        rw [compare_congr_left hab]
        exact hb x hx
      · rename_i hab
        refine List.pairwise_cons.mpr ⟨fun x hx => ?_, ih hrest⟩
        rcases mem_insertAscending hx with rfl | hx
        · exact OrientedCmp.gt_iff_lt.mp hab
        · exact hb x hx

/-- A finite collection with one entry at most for each key, in ascending key order. -/
@[ext]
structure Keyed (key : α → κ) where
  toList : List α
  ascending : Ascending key toList

namespace Keyed

instance [DecidableEq α] : DecidableEq (Keyed key) := fun a b =>
  decidable_of_iff (a.toList = b.toList) ⟨Keyed.ext, fun h => h ▸ rfl⟩

def empty : Keyed key := ⟨[], List.Pairwise.nil⟩

instance : EmptyCollection (Keyed key) := ⟨empty⟩

instance : Inhabited (Keyed key) := ⟨empty⟩

def isEmpty (entries : Keyed key) : Bool := entries.toList.isEmpty

def size (entries : Keyed key) : Nat := entries.toList.length

/-- The entry with the given key. -/
def find? (entries : Keyed key) (k : κ) : Option α :=
  entries.toList.find? fun a => compare (key a) k == .eq

def contains (entries : Keyed key) (k : κ) : Bool := (entries.find? k).isSome

/-- Adds an entry, in the stead of the one that had its key. -/
def insert [TransOrd κ] (entries : Keyed key) (a : α) : Keyed key :=
  ⟨insertAscending key a entries.toList, ascending_insertAscending a entries.ascending⟩

/-- Takes out the entry with the given key. -/
def erase (entries : Keyed key) (k : κ) : Keyed key :=
  ⟨entries.toList.filter fun a => compare (key a) k != .eq,
    entries.ascending.sublist List.filter_sublist⟩

/-- Adds entries in turn; the last one given for a key stays. -/
def insertAll [TransOrd κ] (entries : Keyed key) (added : List α) : Keyed key :=
  added.foldl insert entries

/-- The collection of the listed entries; the last one given for a key stays. -/
def ofList [TransOrd κ] (entries : List α) : Keyed key := insertAll empty entries

def singleton (a : α) : Keyed key := ⟨[a], List.pairwise_singleton _ a⟩

/-- All entries of both collections; those of the second win. -/
def union [TransOrd κ] (a b : Keyed key) : Keyed key := a.insertAll b.toList

instance [TransOrd κ] : Union (Keyed key) := ⟨union⟩

instance : Membership α (Keyed key) := ⟨fun entries a => a ∈ entries.toList⟩

instance [DecidableEq α] (a : α) (entries : Keyed key) : Decidable (a ∈ entries) :=
  inferInstanceAs (Decidable (a ∈ entries.toList))

theorem mem_def {a : α} {entries : Keyed key} : a ∈ entries ↔ a ∈ entries.toList := Iff.rfl

@[simp] theorem toList_empty : (∅ : Keyed key).toList = [] := rfl

@[simp] theorem toList_singleton (a : α) : (singleton a : Keyed key).toList = [a] := rfl

@[simp] theorem find?_empty (k : κ) : (∅ : Keyed key).find? k = none := rfl

theorem find?_insertAscending [TransOrd κ] {entries : List α} (h : Ascending key entries)
    (a : α) (k : κ) :
    (insertAscending key a entries).find? (fun x => compare (key x) k == .eq) =
      if compare (key a) k = .eq then some a
      else entries.find? fun x => compare (key x) k == .eq := by
  induction entries with
  | nil => by_cases ha : compare (key a) k = .eq <;> simp [insertAscending, ha]
  | cons b rest ih =>
      obtain ⟨hb, hrest⟩ := List.pairwise_cons.mp h
      simp only [insertAscending]
      split
      · by_cases ha : compare (key a) k = .eq <;> simp [ha]
      · rename_i hab
        by_cases ha : compare (key a) k = .eq
        · simp [ha]
        · have hbk : compare (key b) k ≠ .eq := fun hbk =>
            ha (compare_congr_left hab ▸ hbk)
          simp [ha, hbk]
      · rename_i hab
        by_cases ha : compare (key a) k = .eq
        · have hbk : compare (key b) k ≠ .eq := fun hbk => by
            rw [compare_congr_right (OrientedCmp.eq_symm hbk)] at ha
            simp [ha] at hab
          simp [hbk, ih hrest, ha]
        · simp [List.find?_cons, ih hrest, ha]

theorem find?_insert [TransOrd κ] (entries : Keyed key) (a : α) (k : κ) :
    (entries.insert a).find? k =
      if compare (key a) k = .eq then some a else entries.find? k :=
  find?_insertAscending entries.ascending a k

theorem find?_erase [TransOrd κ] (entries : Keyed key) (j k : κ) :
    (entries.erase j).find? k =
      if compare j k = .eq then none else entries.find? k := by
  simp only [find?, erase, List.find?_filter]
  by_cases h : compare j k = .eq
  · rw [if_pos h]
    refine List.find?_eq_none.mpr fun a _ => ?_
    rw [compare_congr_right h]
    cases compare (key a) k <;> simp
  · rw [if_neg h]
    congr 1
    funext a
    by_cases ha : compare (key a) k = .eq
    · have : compare (key a) j ≠ .eq := fun haj =>
        h (TransCmp.eq_trans (OrientedCmp.eq_symm haj) ha)
      simp [ha, this]
    · simp [ha]

/-- What a list of additions leaves at a key: the last entry given for it, or else the old one. -/
theorem find?_insertAll [TransOrd κ] (entries : Keyed key) (added : List α) (k : κ) :
    (entries.insertAll added).find? k =
      (added.reverse.find? fun a => compare (key a) k == .eq).or (entries.find? k) := by
  induction added generalizing entries with
  | nil => simp [insertAll]
  | cons a rest ih =>
      have := ih (entries.insert a)
      simp only [insertAll, List.foldl_cons] at this ⊢
      rw [this, find?_insert, List.reverse_cons, List.find?_append, Option.or_assoc]
      congr 1
      by_cases ha : compare (key a) k = .eq <;> simp [ha]

theorem find?_ofList [TransOrd κ] (entries : List α) (k : κ) :
    (ofList entries : Keyed key).find? k =
      entries.reverse.find? fun a => compare (key a) k == .eq := by
  simp [ofList, find?_insertAll, show (empty : Keyed key).find? k = none from rfl]

theorem find?_tail_eq_none [TransOrd κ] {a : α} {rest : List α} {k : κ}
    (h : Ascending key (a :: rest)) (hk : compare (key a) k = .eq) :
    rest.find? (fun x => compare (key x) k == .eq) = none := by
  refine List.find?_eq_none.mpr fun x hx => ?_
  have := (List.pairwise_cons.mp h).1 x hx
  rw [compare_congr_left hk] at this
  simp [OrientedCmp.gt_iff_lt.mpr this]

theorem find?_reverse [TransOrd κ] {entries : List α} (h : Ascending key entries) (k : κ) :
    entries.reverse.find? (fun x => compare (key x) k == .eq) =
      entries.find? fun x => compare (key x) k == .eq := by
  induction entries with
  | nil => rfl
  | cons a rest ih =>
      rw [List.reverse_cons, List.find?_append, ih (List.pairwise_cons.mp h).2]
      by_cases ha : compare (key a) k = .eq
      · simp [find?_tail_eq_none h ha, ha]
      · simp [beq_eq_false_iff_ne.mpr ha]

theorem find?_union [TransOrd κ] (a b : Keyed key) (k : κ) :
    (a ∪ b).find? k = (b.find? k).or (a.find? k) := by
  change (a.insertAll b.toList).find? k = _
  rw [find?_insertAll, find?_reverse b.ascending]
  rfl

theorem mem_iff_find? [TransOrd κ] {entries : Keyed key} {a : α} :
    a ∈ entries ↔ entries.find? (key a) = some a := by
  obtain ⟨entries, h⟩ := entries
  simp only [mem_def, find?]
  induction entries with
  | nil => simp
  | cons b rest ih =>
      obtain ⟨hb, hrest⟩ := List.pairwise_cons.mp h
      rw [List.mem_cons, List.find?_cons, ih hrest]
      by_cases hba : compare (key b) (key a) = .eq
      · simp [hba, find?_tail_eq_none h hba, eq_comm]
      · have hne : a ≠ b := fun hab => hba (hab ▸ ReflCmp.compare_self)
        rw [beq_eq_false_iff_ne.mpr hba]
        simp [hne]

theorem nodup_of_ascending [TransOrd κ] {entries : List α} (h : Ascending key entries) :
    entries.Nodup := by
  refine h.imp ?_
  rintro a _ hlt rfl
  simp at hlt

theorem eq_of_mem_iff_of_ascending [TransOrd κ] {a b : List α} (ha : Ascending key a)
    (hb : Ascending key b) (h : ∀ x, x ∈ a ↔ x ∈ b) : a = b := by
  have hperm : a.Perm b :=
    (List.perm_ext_iff_of_nodup (nodup_of_ascending ha) (nodup_of_ascending hb)).mpr h
  refine List.Perm.eq_of_pairwise ?_ ha hb hperm
  intro x y _ _ hxy hyx
  exact absurd hyx (OrientedCmp.not_lt_of_lt hxy)

theorem ext_mem [TransOrd κ] {a b : Keyed key} (h : ∀ x, x ∈ a ↔ x ∈ b) : a = b :=
  Keyed.ext (eq_of_mem_iff_of_ascending a.ascending b.ascending h)

/-- A collection has one listing in ascending order. -/
theorem toList_eq_iff [TransOrd κ] {entries : Keyed key} {listing : List α} :
    entries.toList = listing ↔ Ascending key listing ∧ ∀ x, x ∈ listing ↔ x ∈ entries := by
  constructor
  · rintro rfl
    exact ⟨entries.ascending, fun _ => Iff.rfl⟩
  · rintro ⟨hlisting, h⟩
    exact eq_of_mem_iff_of_ascending entries.ascending hlisting fun x => (h x).symm

/-- Collections that find the same at every key are equal. -/
theorem ext_find? [TransOrd κ] {a b : Keyed key} (h : ∀ k, a.find? k = b.find? k) : a = b :=
  ext_mem fun x => by rw [mem_iff_find?, mem_iff_find?, h]

end Keyed

/-- A finite set in ascending order. -/
abbrev OrderedSet (α : Type) [Ord α] := Keyed (id : α → α)

/-- A finite map in ascending key order. -/
abbrev OrderedMap (κ β : Type) [Ord κ] := Keyed (Prod.fst : κ × β → κ)

namespace OrderedSet

variable [Ord α]

theorem mem_insert [TransOrd α] [LawfulEqOrd α] {entries : OrderedSet α} {a x : α} :
    x ∈ entries.insert a ↔ x = a ∨ x ∈ entries := by
  simp only [Keyed.mem_iff_find?, Keyed.find?_insert, id, Std.compare_eq_iff_eq]
  by_cases h : a = x
  · simp [h]
  · have : x ≠ a := fun hx => h hx.symm
    simp [h, this]

theorem mem_insertAll [TransOrd α] [LawfulEqOrd α] {entries : OrderedSet α} {added : List α}
    {x : α} : x ∈ entries.insertAll added ↔ x ∈ added ∨ x ∈ entries := by
  induction added generalizing entries with
  | nil => simp [Keyed.insertAll]
  | cons a rest ih =>
      have := @ih (entries.insert a)
      simp only [Keyed.insertAll, List.foldl_cons] at this ⊢
      rw [this, mem_insert, List.mem_cons]
      constructor
      · rintro (h | h | h) <;> simp [h]
      · rintro ((h | h) | h) <;> simp [h]

theorem mem_ofList [TransOrd α] [LawfulEqOrd α] {elements : List α} {x : α} :
    x ∈ (Keyed.ofList elements : OrderedSet α) ↔ x ∈ elements := by
  rw [Keyed.ofList, mem_insertAll]
  simp [show ¬ x ∈ (Keyed.empty : OrderedSet α) from List.not_mem_nil]

theorem mem_ofList_flatMap [TransOrd α] [LawfulEqOrd α] {β : Type} {sets : β → OrderedSet α}
    {indices : List β} {x : α} :
    x ∈ (Keyed.ofList (indices.flatMap fun i => (sets i).toList) : OrderedSet α) ↔
      ∃ i ∈ indices, x ∈ sets i := by
  rw [mem_ofList, List.mem_flatMap]
  rfl

theorem eq_ofList_flatMap_iff [TransOrd α] [LawfulEqOrd α] {β : Type} {sets : β → OrderedSet α}
    {indices : List β} {union : OrderedSet α} :
    union = (Keyed.ofList (indices.flatMap fun i => (sets i).toList) : OrderedSet α) ↔
      ∀ x, x ∈ union ↔ ∃ i ∈ indices, x ∈ sets i := by
  constructor
  · rintro rfl x
    exact mem_ofList_flatMap
  · intro h
    apply Keyed.ext_mem
    intro x
    rw [h, mem_ofList_flatMap]

theorem toList_ofList_perm [TransOrd α] [LawfulEqOrd α] {elements : List α}
    (h : elements.Nodup) : (Keyed.ofList elements : OrderedSet α).toList.Perm elements := by
  have hnodup := Keyed.nodup_of_ascending (Keyed.ofList elements : OrderedSet α).ascending
  exact (List.perm_ext_iff_of_nodup hnodup h).mpr fun _ => mem_ofList

end OrderedSet

namespace OrderedMap

variable {β : Type}

/-- The value at a key. -/
def get? (map : OrderedMap κ β) (k : κ) : Option β := (map.find? k).map Prod.snd

/-- Applies a function to all values. -/
def map {γ : Type} (f : β → γ) (entries : OrderedMap κ β) : OrderedMap κ γ :=
  ⟨entries.toList.map fun entry => (entry.1, f entry.2), by
    simpa only [Ascending, List.pairwise_map] using entries.ascending⟩

/-- The set of keys that have a value. -/
def keys (map : OrderedMap κ β) : OrderedSet κ :=
  ⟨map.toList.map Prod.fst, List.pairwise_map.mpr map.ascending⟩

@[simp] theorem toList_keys (map : OrderedMap κ β) : map.keys.toList = map.toList.map Prod.fst := rfl

theorem find?_eq_map_get? [LawfulEqOrd κ] (entries : OrderedMap κ β) (k : κ) :
    entries.find? k = (entries.get? k).map (Prod.mk k) := by
  cases hfind : entries.find? k with
  | none => simp [get?, hfind]
  | some entry =>
      obtain ⟨j, value⟩ := entry
      have hj : j = k := by simpa using List.find?_some hfind
      subst hj
      simp [get?, hfind]

variable [TransOrd κ] [LawfulEqOrd κ] {entries others : OrderedMap κ β}

theorem ext_get? (h : ∀ k, entries.get? k = others.get? k) : entries = others :=
  Keyed.ext_find? fun k => by rw [find?_eq_map_get?, find?_eq_map_get?, h]

theorem mem_iff_get? {k : κ} {value : β} : (k, value) ∈ entries ↔ entries.get? k = some value := by
  rw [Keyed.mem_iff_find?, find?_eq_map_get?, Option.map_eq_some_iff]
  simp

theorem mem_keys_iff {k : κ} : k ∈ entries.keys ↔ (entries.get? k).isSome := by
  rw [Keyed.mem_def, toList_keys, List.mem_map, Option.isSome_iff_exists]
  constructor
  · rintro ⟨entry, hentry, rfl⟩
    exact ⟨entry.2, mem_iff_get?.mp hentry⟩
  · rintro ⟨value, hvalue⟩
    exact ⟨(k, value), mem_iff_get?.mpr hvalue, rfl⟩

end OrderedMap

end DocPages
