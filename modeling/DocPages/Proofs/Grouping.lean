import Mathlib.Data.List.Nodup
import Mathlib.Data.List.Induction
import DocPages.Merge.Grouping

/-!
Grouping by a key is the stable partition of a list.

`groupsBy_eq` computes all groups at once: one for each key, in the order in which the keys first
occur, with the elements of that key in their order. The other statements follow from it.
-/

namespace DocPages

variable {α κ : Type} [DecidableEq κ] {key : α → κ}

/-- The keys of a list in the order of their first occurrence. -/
def distinctKeys (key : α → κ) (elements : List α) : List κ := (elements.map key).eraseDups

theorem distinctKeys_append_singleton (elements : List α) (a : α) :
    distinctKeys key (elements ++ [a]) =
      if key a ∈ distinctKeys key elements then distinctKeys key elements
      else distinctKeys key elements ++ [key a] := by
  simp only [distinctKeys, List.map_append, List.map_cons, List.map_nil, List.eraseDups_append,
    List.mem_eraseDups, List.mem_map]
  by_cases h : ∃ b ∈ elements, key b = key a
  · simp [List.removeAll, h]
  · simp [List.removeAll, h, List.eraseDups_cons]

theorem mem_distinctKeys {elements : List α} {k : κ} :
    k ∈ distinctKeys key elements ↔ ∃ a ∈ elements, key a = k := by
  rw [distinctKeys, List.mem_eraseDups, List.mem_map]

theorem key_of_mem_filter {elements : List α} {k : κ} {a : α}
    (h : a ∈ elements.filter fun a => key a = k) : key a = k :=
  of_decide_eq_true (List.mem_filter.mp h).2

theorem filter_key_eq_nil_iff {elements : List α} {k : κ} :
    elements.filter (fun a => key a = k) = [] ↔ k ∉ distinctKeys key elements := by
  rw [List.filter_eq_nil_iff, mem_distinctKeys]
  simp only [decide_eq_true_eq, not_exists, not_and]

theorem distinctKeys_append_of_fresh {front back : List α}
    (h : ∀ b ∈ back, key b ∉ distinctKeys key front) :
    distinctKeys key (front ++ back) = distinctKeys key front ++ distinctKeys key back := by
  simp only [distinctKeys, List.map_append, List.eraseDups_append]
  congr 2
  apply List.filter_eq_self.mpr
  intro k hk
  obtain ⟨b, hb, rfl⟩ := List.mem_map.mp hk
  have hfresh : key b ∉ front.map key := by
    intro hmem
    exact h b hb (mem_distinctKeys.mpr (List.mem_map.mp hmem))
  simpa using hfresh

theorem distinctKeys_of_const {elements : List α} {k : κ} (hne : elements ≠ [])
    (h : ∀ a ∈ elements, key a = k) : distinctKeys key elements = [k] := by
  induction elements using List.reverseRecOn with
  | nil => exact absurd rfl hne
  | append_singleton elements a ih =>
      have ha : key a = k := h a (by simp)
      rw [distinctKeys_append_singleton, ha]
      rcases eq_or_ne elements [] with rfl | hfront
      · rfl
      · have hkeys := ih hfront fun b hb => h b (List.mem_append_left _ hb)
        rw [hkeys, if_pos (List.mem_singleton_self k)]

theorem nodup_distinctKeys (key : α → κ) (elements : List α) :
    (distinctKeys key elements).Nodup := by
  induction elements using List.reverseRecOn with
  | nil => exact List.nodup_nil
  | append_singleton elements a ih =>
      rw [distinctKeys_append_singleton]
      split
      · exact ih
      · rename_i h
        apply List.nodup_append.mpr
        refine ⟨ih, List.nodup_singleton _, ?_⟩
        rintro k hk j hj rfl
        exact h (List.mem_singleton.mp hj ▸ hk)

theorem addToGroup_map {keys : List κ} (hkeys : keys.Nodup) (members : κ → List α) (a : α) :
    addToGroup key a (keys.map fun k => (k, members k)) =
      if key a ∈ keys then
        keys.map fun k => (k, if key a = k then members k ++ [a] else members k)
      else (keys.map fun k => (k, members k)) ++ [(key a, [a])] := by
  induction keys with
  | nil => rfl
  | cons j rest ih =>
      obtain ⟨hj, hrest⟩ := List.nodup_cons.mp hkeys
      rw [List.map_cons, addToGroup]
      by_cases h : j = key a
      · subst h
        rw [if_pos rfl, if_pos List.mem_cons_self, List.map_cons, if_pos rfl]
        congr 1
        apply List.map_congr_left
        intro k hk
        rw [if_neg]
        rintro rfl
        exact hj hk
      · rw [if_neg h, ih hrest]
        have hne : ¬ key a = j := fun hj => h hj.symm
        by_cases hmem : key a ∈ rest
        · rw [if_pos hmem, if_pos (List.mem_cons_of_mem j hmem), List.map_cons, if_neg hne]
        · rw [if_neg hmem, if_neg (by simp [hne, hmem]), List.cons_append]

theorem keyedGroups_append_singleton (key : α → κ) (elements : List α) (a : α) :
    keyedGroups key (elements ++ [a]) = addToGroup key a (keyedGroups key elements) := by
  simp [keyedGroups, List.foldl_append]

theorem keyedGroups_eq (key : α → κ) (elements : List α) :
    keyedGroups key elements =
      (distinctKeys key elements).map fun k => (k, elements.filter fun a => key a = k) := by
  induction elements using List.reverseRecOn with
  | nil => rfl
  | append_singleton elements a ih =>
      rw [keyedGroups_append_singleton, ih,
        addToGroup_map (nodup_distinctKeys key elements), distinctKeys_append_singleton]
      split
      · apply List.map_congr_left
        intro k _
        split
        · rename_i hk
          simp [List.filter_append, hk]
        · rename_i hk
          simp [List.filter_append, hk]
      · rename_i h
        rw [List.map_append, List.map_cons, List.map_nil]
        have hnone := filter_key_eq_nil_iff.mpr h
        congr 1
        · apply List.map_congr_left
          intro k hk
          have hka : ¬ key a = k := by
            rintro rfl
            exact h hk
          simp [List.filter_append, hka]
        · simp [List.filter_append, hnone]

/-- One group for each key in the order of first occurrence, each the part of the list with that
key. -/
theorem groupsBy_eq (key : α → κ) (elements : List α) :
    groupsBy key elements =
      (distinctKeys key elements).map fun k => elements.filter fun a => key a = k := by
  rw [groupsBy, keyedGroups_eq, List.map_map]
  rfl

theorem mem_groupsBy {elements group : List α} :
    group ∈ groupsBy key elements ↔
      ∃ k ∈ distinctKeys key elements, elements.filter (fun a => key a = k) = group := by
  rw [groupsBy_eq, List.mem_map]

theorem key_eq_of_mem_group {elements group : List α} (hgroup : group ∈ groupsBy key elements)
    {a b : α} (ha : a ∈ group) (hb : b ∈ group) : key a = key b := by
  obtain ⟨k, _, rfl⟩ := mem_groupsBy.mp hgroup
  exact (key_of_mem_filter ha).trans (key_of_mem_filter hb).symm

theorem ne_nil_of_mem_groupsBy {elements group : List α} (hgroup : group ∈ groupsBy key elements) :
    group ≠ [] := by
  obtain ⟨k, hk, rfl⟩ := mem_groupsBy.mp hgroup
  intro hnone
  exact filter_key_eq_nil_iff.mp hnone hk

theorem mem_of_mem_group {elements group : List α} (hgroup : group ∈ groupsBy key elements)
    {a : α} (ha : a ∈ group) : a ∈ elements := by
  obtain ⟨k, _, rfl⟩ := mem_groupsBy.mp hgroup
  exact List.mem_of_mem_filter ha

theorem groupsBy_map {β : Type} (key : α → κ) (f : β → α) (elements : List β) :
    groupsBy key (elements.map f) = (groupsBy (key ∘ f) elements).map (List.map f) := by
  have hkeys : distinctKeys key (elements.map f) = distinctKeys (key ∘ f) elements := by
    rw [distinctKeys, distinctKeys, List.map_map]
  rw [groupsBy_eq, groupsBy_eq, hkeys, List.map_map]
  apply List.map_congr_left
  intro k _
  rw [Function.comp_apply, List.filter_map]
  rfl

theorem addToGroup_flatten_perm (key : α → κ) (a : α) (groups : List (κ × List α)) :
    ((addToGroup key a groups).flatMap Prod.snd).Perm (groups.flatMap Prod.snd ++ [a]) := by
  induction groups with
  | nil => exact List.Perm.refl _
  | cons group rest ih =>
      obtain ⟨k, members⟩ := group
      rw [addToGroup]
      split
      · simp only [List.flatMap_cons, List.append_assoc]
        exact List.perm_append_comm.append_left members
      · simp only [List.flatMap_cons, List.append_assoc]
        exact ih.append_left members

theorem flatten_groupsBy_perm (key : α → κ) (elements : List α) :
    (groupsBy key elements).flatten.Perm elements := by
  induction elements using List.reverseRecOn with
  | nil => exact List.Perm.refl _
  | append_singleton elements a ih =>
      rw [groupsBy, ← List.flatMap_def] at ih ⊢
      rw [keyedGroups_append_singleton]
      exact (addToGroup_flatten_perm key a _).trans (ih.append_right [a])

theorem nodup_map_key_iff {elements : List α} :
    (elements.map key).Nodup ↔
      ∀ k ∈ distinctKeys key elements, (elements.filter fun a => key a = k).length ≤ 1 := by
  have hcount (k : κ) :
      (elements.map key).count k = (elements.filter fun a => key a = k).length := by
    rw [List.count_eq_countP, List.countP_map, List.countP_eq_length_filter]
    rfl
  rw [List.nodup_iff_count_le_one]
  constructor
  · intro h k _
    rw [← hcount]
    exact h k
  · intro h k
    by_cases hk : k ∈ elements.map key
    · rw [hcount]
      exact h k (mem_distinctKeys.mpr (List.mem_map.mp hk))
    · rw [List.count_eq_zero_of_not_mem hk]
      exact Nat.zero_le 1

theorem flatMap_filter_of_nodup {elements : List α} (h : (elements.map key).Nodup) :
    ((distinctKeys key elements).flatMap fun k => elements.filter fun a => key a = k) =
      elements := by
  induction elements with
  | nil => rfl
  | cons a rest ih =>
      rw [List.map_cons] at h
      obtain ⟨ha, hrest⟩ := List.nodup_cons.mp h
      have hfresh : ∀ b ∈ rest, key b ≠ key a := by
        intro b hb hba
        exact ha (hba ▸ List.mem_map_of_mem hb)
      have hkeys : distinctKeys key (a :: rest) = key a :: distinctKeys key rest := by
        have hfront : distinctKeys key [a] = [key a] := rfl
        rw [← List.singleton_append, distinctKeys_append_of_fresh, hfront, List.singleton_append]
        intro b hb
        rw [hfront, List.mem_singleton]
        exact hfresh b hb
      have hnone : rest.filter (fun b => key b = key a) = [] := by
        rw [filter_key_eq_nil_iff, mem_distinctKeys]
        rintro ⟨b, hb, hba⟩
        exact hfresh b hb hba
      have htail : ∀ k ∈ distinctKeys key rest, (a :: rest).filter (fun b => key b = k) =
          rest.filter fun b => key b = k := by
        intro k hk
        obtain ⟨b, hb, rfl⟩ := mem_distinctKeys.mp hk
        exact List.filter_cons_of_neg (by simpa using (hfresh b hb).symm)
      rw [hkeys, List.flatMap_cons, List.filter_cons_of_pos (by simp), hnone,
        List.flatMap_congr htail, ih hrest, List.singleton_append]

section blocks

variable {keys : List κ} {block : κ → List α}

theorem filter_flatMap_blocks (hkeys : keys.Nodup)
    (hblock : ∀ k ∈ keys, ∀ a ∈ block k, key a = k) (k : κ) :
    (keys.flatMap block).filter (fun a => key a = k) = if k ∈ keys then block k else [] := by
  induction keys with
  | nil => rfl
  | cons j rest ih =>
      obtain ⟨hj, hrest⟩ := List.nodup_cons.mp hkeys
      have hhead : ∀ a ∈ block j, key a = j := hblock j List.mem_cons_self
      have htail := ih hrest fun i hi => hblock i (List.mem_cons_of_mem j hi)
      rw [List.flatMap_cons, List.filter_append, htail]
      rcases eq_or_ne j k with rfl | h
      · rw [if_neg hj, if_pos List.mem_cons_self, List.append_nil]
        apply List.filter_eq_self.mpr
        intro a ha
        exact decide_eq_true (hhead a ha)
      · have hnone : (block j).filter (fun a => key a = k) = [] := by
          apply List.filter_eq_nil_iff.mpr
          intro a ha hak
          exact h ((hhead a ha).symm.trans (of_decide_eq_true hak))
        simp [hnone, h.symm]

theorem distinctKeys_flatMap_blocks (hkeys : keys.Nodup)
    (hblock : ∀ k ∈ keys, ∀ a ∈ block k, key a = k) (hne : ∀ k ∈ keys, block k ≠ []) :
    distinctKeys key (keys.flatMap block) = keys := by
  induction keys with
  | nil => rfl
  | cons j rest ih =>
      obtain ⟨hj, hrest⟩ := List.nodup_cons.mp hkeys
      have hconst : ∀ a ∈ block j, key a = j := hblock j List.mem_cons_self
      have htail := ih hrest (fun i hi => hblock i (List.mem_cons_of_mem j hi))
        fun i hi => hne i (List.mem_cons_of_mem j hi)
      rw [List.flatMap_cons, distinctKeys_append_of_fresh, htail,
        distinctKeys_of_const (hne j List.mem_cons_self) hconst]
      · rfl
      · intro b hb hmem
        obtain ⟨i, hi, hbi⟩ := List.mem_flatMap.mp hb
        obtain ⟨a, ha, hab⟩ := mem_distinctKeys.mp hmem
        have hij : i = j := by
          rw [← hblock i (List.mem_cons_of_mem j hi) b hbi, ← hab, hconst a ha]
        exact hj (hij ▸ hi)

theorem groupsBy_flatMap_blocks (hkeys : keys.Nodup)
    (hblock : ∀ k ∈ keys, ∀ a ∈ block k, key a = k) (hne : ∀ k ∈ keys, block k ≠ []) :
    groupsBy key (keys.flatMap block) = keys.map block := by
  rw [groupsBy_eq, distinctKeys_flatMap_blocks hkeys hblock hne]
  apply List.map_congr_left
  intro k hk
  rw [filter_flatMap_blocks hkeys hblock, if_pos hk]

/-- Equal keys stand next to each other: whatever is between two occurrences of a key is that
key. -/
def Contiguous (keys : List κ) : Prop :=
  ∀ (i j l : Nat) (k : κ), i ≤ j → j ≤ l → keys[i]? = some k → keys[l]? = some k →
    keys[j]? = some k

omit [DecidableEq κ] in
theorem Contiguous.append {front back : List κ} {c : κ} (hfront : ∀ k ∈ front, k = c)
    (hback : Contiguous back) (hc : c ∉ back) : Contiguous (front ++ back) := by
  intro i j l k hij hjl hi hl
  have hconst {n : Nat} (hn : n < front.length) : (front ++ back)[n]? = some c := by
    rw [List.getElem?_append_left hn, List.getElem?_eq_getElem hn,
      hfront _ (List.getElem_mem hn)]
  rcases Nat.lt_or_ge l front.length with hlfront | hlback
  · rw [hconst hlfront] at hl
    rw [hconst (by omega), hl]
  · rw [List.getElem?_append_right hlback] at hl
    have hkback : k ∈ back := List.mem_of_getElem? hl
    have hiback : front.length ≤ i := by
      by_contra hifront
      rw [hconst (by omega)] at hi
      exact hc (Option.some.inj hi ▸ hkback)
    rw [List.getElem?_append_right hiback] at hi
    rw [List.getElem?_append_right (by omega)]
    exact hback _ _ _ k (by omega) (by omega) hi hl

omit [DecidableEq κ] in
theorem contiguous_map_flatMap_blocks (hkeys : keys.Nodup)
    (hblock : ∀ k ∈ keys, ∀ a ∈ block k, key a = k) :
    Contiguous ((keys.flatMap block).map key) := by
  induction keys with
  | nil =>
      intro i j l k _ _ hi _
      simp at hi
  | cons j rest ih =>
      obtain ⟨hj, hrest⟩ := List.nodup_cons.mp hkeys
      have htail := ih hrest fun i hi => hblock i (List.mem_cons_of_mem j hi)
      rw [List.flatMap_cons, List.map_append]
      apply Contiguous.append (c := j)
      · intro k hk
        obtain ⟨a, ha, rfl⟩ := List.mem_map.mp hk
        exact hblock j List.mem_cons_self a ha
      · exact htail
      · intro hmem
        obtain ⟨a, ha, hak⟩ := List.mem_map.mp hmem
        obtain ⟨i, hi, hai⟩ := List.mem_flatMap.mp ha
        have hkey := hblock i (List.mem_cons_of_mem j hi) a hai
        exact hj (hak ▸ hkey ▸ hi)

end blocks

theorem filter_flatten_groupsBy (key : α → κ) (elements : List α) (k : κ) :
    (groupsBy key elements).flatten.filter (fun a => key a = k) =
      elements.filter fun a => key a = k := by
  have hblock : ∀ j ∈ distinctKeys key elements, ∀ a ∈ elements.filter (fun a => key a = j),
      key a = j := fun _ _ _ => key_of_mem_filter
  rw [groupsBy_eq, ← List.flatMap_def,
    filter_flatMap_blocks (nodup_distinctKeys key elements) hblock]
  split
  · rfl
  · rename_i h
    exact (filter_key_eq_nil_iff.mpr h).symm

end DocPages
