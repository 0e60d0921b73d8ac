import DocPages.Merge.Tree
import DocPages.Proofs.Grouping
import DocPages.PropertyKind

namespace DocPages

section grouping

variable {α κ : Type} [DecidableEq κ] {key : α → κ} {elements : List α}
  {groups others : List (List α)}

/-- The number of elements before the first one with a key. -/
def firstAt (key : α → κ) (elements : List α) (k : κ) : Nat :=
  elements.findIdx fun a => key a = k

theorem firstAt_lt_length_iff {k : κ} :
    firstAt key elements k < elements.length ↔ k ∈ distinctKeys key elements := by
  simp only [firstAt, List.findIdx_lt_length, mem_distinctKeys, decide_eq_true_eq]

theorem firstAt_append (front back : List α) (k : κ) :
    firstAt key (front ++ back) k =
      if firstAt key front k < front.length then firstAt key front k
      else firstAt key back k + front.length :=
  List.findIdx_append

theorem firstAt_append_of_mem {k : κ} (h : k ∈ distinctKeys key elements) (back : List α) :
    firstAt key (elements ++ back) k = firstAt key elements k := by
  rw [firstAt_append, if_pos (firstAt_lt_length_iff.mpr h)]

theorem firstAt_append_singleton_of_not_mem {a : α} (h : key a ∉ distinctKeys key elements) :
    firstAt key (elements ++ [a]) (key a) = elements.length := by
  have hlast : firstAt key [a] (key a) = 0 := by
    simp [firstAt]
  rw [firstAt_append, if_neg (firstAt_lt_length_iff.not.mpr h), hlast, Nat.zero_add]

theorem pairwise_firstAt_distinctKeys (key : α → κ) (elements : List α) :
    (distinctKeys key elements).Pairwise fun j k =>
      firstAt key elements j < firstAt key elements k := by
  induction elements using List.reverseRecOn with
  | nil => exact List.Pairwise.nil
  | append_singleton elements a ih =>
      have hkept : (distinctKeys key elements).Pairwise fun j k =>
          firstAt key (elements ++ [a]) j < firstAt key (elements ++ [a]) k := by
        refine ih.imp_of_mem ?_
        intro j k hj hk hlt
        rwa [firstAt_append_of_mem hj, firstAt_append_of_mem hk]
      rw [distinctKeys_append_singleton]
      split
      · exact hkept
      · rename_i hfresh
        refine List.pairwise_append.mpr ⟨hkept, List.pairwise_singleton _ _, ?_⟩
        intro j hj k hk
        rw [List.mem_singleton.mp hk, firstAt_append_of_mem hj,
          firstAt_append_singleton_of_not_mem hfresh]
        exact firstAt_lt_length_iff.mpr hj

/-- A list divided by a key, where neither the elements of a group nor the groups change their
order. -/
structure StablePartition (key : α → κ) (elements : List α) (groups : List (List α)) : Prop where
  nonempty : ∀ group ∈ groups, group ≠ []
  covers : ∀ a ∈ elements, ∃ group ∈ groups, a ∈ group
  members : ∀ group ∈ groups, ∀ a ∈ group, group = elements.filter fun b => key b = key a
  first : groups.Pairwise fun group later => ∀ a ∈ group, ∀ b ∈ later,
    firstAt key elements (key a) < firstAt key elements (key b)

theorem stablePartition_groupsBy (key : α → κ) (elements : List α) :
    StablePartition key elements (groupsBy key elements) where
  nonempty _ hgroup := ne_nil_of_mem_groupsBy hgroup
  covers a ha := by
    have hkey : key a ∈ distinctKeys key elements := mem_distinctKeys.mpr ⟨a, ha, rfl⟩
    refine ⟨_, mem_groupsBy.mpr ⟨key a, hkey, rfl⟩, ?_⟩
    exact List.mem_filter.mpr ⟨ha, decide_eq_true rfl⟩
  members group hgroup a ha := by
    obtain ⟨k, _, rfl⟩ := mem_groupsBy.mp hgroup
    rw [key_of_mem_filter ha]
  first := by
    rw [groupsBy_eq, List.pairwise_map]
    refine (pairwise_firstAt_distinctKeys key elements).imp ?_
    intro j k hlt a ha b hb
    rwa [key_of_mem_filter ha, key_of_mem_filter hb]

namespace StablePartition

theorem mem_of_mem (h : StablePartition key elements groups)
    (hothers : StablePartition key elements others) {group : List α} (hgroup : group ∈ groups) :
    group ∈ others := by
  obtain ⟨a, ha⟩ := List.exists_mem_of_ne_nil group (h.nonempty group hgroup)
  have hfilter := h.members group hgroup a ha
  have hmem : a ∈ elements := List.mem_of_mem_filter (hfilter ▸ ha)
  obtain ⟨other, hother, haother⟩ := hothers.covers a hmem
  rw [hfilter, ← hothers.members other hother a haother]
  exact hother

theorem pairwise_key_ne (h : StablePartition key elements groups) :
    groups.Pairwise fun group later => ∀ a ∈ group, ∀ b ∈ later, key a ≠ key b := by
  refine h.first.imp ?_
  intro group later hlt a ha b hb hkey
  have hfirst := hlt a ha b hb
  rw [hkey] at hfirst
  exact Nat.lt_irrefl _ hfirst

theorem nodup (h : StablePartition key elements groups) : groups.Nodup := by
  refine h.pairwise_key_ne.imp_of_mem ?_
  rintro group _ hgroup _ hne rfl
  obtain ⟨a, ha⟩ := List.exists_mem_of_ne_nil group (h.nonempty group hgroup)
  exact hne a ha a ha rfl

theorem unique (h : StablePartition key elements groups)
    (hothers : StablePartition key elements others) : groups = others := by
  have hperm : groups.Perm others := by
    refine (List.perm_ext_iff_of_nodup h.nodup hothers.nodup).mpr ?_
    intro group
    exact ⟨h.mem_of_mem hothers, hothers.mem_of_mem h⟩
  refine List.Perm.eq_of_pairwise ?_ h.first hothers.first hperm
  intro group other hgroup hother hlt hgt
  obtain ⟨a, ha⟩ := List.exists_mem_of_ne_nil group (h.nonempty group hgroup)
  obtain ⟨b, hb⟩ := List.exists_mem_of_ne_nil other (hothers.nonempty other hother)
  exact absurd (hlt a ha b hb) (Nat.lt_asymm (hgt b hb a ha))

end StablePartition

theorem groupsBy_eq_iff_stablePartition :
    groupsBy key elements = groups ↔ StablePartition key elements groups := by
  constructor
  · rintro rfl
    exact stablePartition_groupsBy key elements
  · exact (stablePartition_groupsBy key elements).unique

theorem groupsBy_flatten_groupsBy (key : α → κ) (elements : List α) :
    groupsBy key (groupsBy key elements).flatten = groupsBy key elements := by
  rw [groupsBy_eq key elements, ← List.flatMap_def]
  apply groupsBy_flatMap_blocks (nodup_distinctKeys key elements)
  · intro k _ a ha
    exact key_of_mem_filter ha
  · intro k hk hnone
    exact filter_key_eq_nil_iff.mp hnone hk

end grouping

namespace Page

/-- Pages are grouped by kind and name in the one way that is stable. No two groups share a key. Put
together, the groups are the pages in another order, which falls into the same groups. -/
theorem groupsBy_key_stable [PropertyFamily] (pages : List Page) :
    (∀ groups, groupsBy key pages = groups ↔ StablePartition key pages groups) ∧
    (groupsBy key pages).Pairwise (fun group later =>
      ∀ page ∈ group, ∀ other ∈ later, (page.kind, page.name) ≠ (other.kind, other.name)) ∧
    (groupsBy key pages).flatten.Perm pages ∧
    groupsBy key (groupsBy key pages).flatten = groupsBy key pages :=
  ⟨fun _ => groupsBy_eq_iff_stablePartition, (stablePartition_groupsBy key pages).pairwise_key_ne,
    flatten_groupsBy_perm key pages, groupsBy_flatten_groupsBy key pages⟩

theorem groupsBy_key_stable_scattered :
    let page (name : String) (kind : PageKind) (resource : String) : Page :=
      { name, kind, dris := ∅, content := .group ⟨[], {}⟩, resources := [resource] }
    let outer := page "Outer" .classlike
    let run := page "run" .member
    let sameName := page "Outer" .package "c"
    StablePartition key [outer "a", run "b", sameName, run "d", outer "e"]
      [[outer "a", outer "e"], [run "b", run "d"], [sameName]] := by
  intro page outer run sameName
  obtain ⟨hgroups, _⟩ :=
    groupsBy_key_stable [outer "a", run "b", sameName, run "d", outer "e"]
  exact (hgroups _).mp rfl

end Page

end DocPages
