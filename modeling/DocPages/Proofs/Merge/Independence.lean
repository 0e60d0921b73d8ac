import DocPages.Proofs.Merge.Arrangement
import DocPages.PropertyKind

namespace DocPages

section

variable [PropertyFamily]

namespace Page

/-- The page with only those of its children that have a given key. -/
def only (page : Page) (k : PageKind × String) : Page :=
  { page with children := page.children.filter fun child => child.key = k }

/-- Whether trees have the same pages, where the children of different keys may be interleaved in
another way in the uppermost levels, as many as `depth` says. -/
def Reordered : Nat → Page → Page → Prop
  | 0, page, other => page = other
  | depth + 1, page, other =>
      page.detached = other.detached ∧
        ∀ k, List.Forall₂ (Reordered depth) (page.only k).children (other.only k).children

namespace Reordered

theorem refl (depth : Nat) (page : Page) : page.Reordered depth page := by
  induction depth generalizing page with
  | zero => rfl
  | succ depth ih => exact ⟨rfl, fun k => List.forall₂_same.mpr fun child _ => ih child⟩

theorem swap {first second : Page} (h : first.key ≠ second.key) (depth : Nat) (page : Page)
    (front back : List Page) :
    Reordered (depth + 1) { page with children := front ++ first :: second :: back }
      { page with children := front ++ second :: first :: back } := by
  refine ⟨rfl, ?_⟩
  intro k
  have hsame : (first :: second :: back).filter (fun child => child.key = k) =
      (second :: first :: back).filter fun child => child.key = k := by
    by_cases hfirst : first.key = k
    · have hsecond : ¬ second.key = k := fun hsecond => h (hfirst.trans hsecond.symm)
      simp [hfirst, hsecond]
    · simp [List.filter_cons, hfirst]
  simp only [only, List.filter_append, hsame]
  exact List.forall₂_same.mpr fun child _ => refl depth child

theorem detached_eq {depth : Nat} {page other : Page} (h : page.Reordered depth other) :
    page.detached = other.detached := by
  cases depth with
  | zero => exact congrArg detached h
  | succ depth => exact h.1

theorem map_detached_eq {depth : Nat} {pages others : List Page}
    (h : List.Forall₂ (Reordered depth) pages others) :
    pages.map detached = others.map detached := by
  induction h with
  | nil => rfl
  | cons hpage _ ih => rw [List.map_cons, List.map_cons, hpage.detached_eq, ih]

theorem filter_flatMap_children {depth : Nat} {pages others : List Page}
    (h : List.Forall₂ (Reordered (depth + 1)) pages others) (k : PageKind × String) :
    List.Forall₂ (Reordered depth)
      ((pages.flatMap children).filter fun child => child.key = k)
      ((others.flatMap children).filter fun child => child.key = k) := by
  rw [List.filter_flatMap, List.filter_flatMap]
  exact List.rel_flatMap h fun _ _ hpage => hpage.2 k

theorem adopt_joined {depth : Nat} {first second : Page} {pages others : List Page}
    (hfirst : first.Reordered depth second) (h : List.Forall₂ (Reordered depth) pages others) :
    ((first.joined pages).adopt (pages.flatMap children)).Reordered depth
      ((second.joined others).adopt (others.flatMap children)) := by
  cases depth with
  | zero =>
      obtain rfl : first = second := hfirst
      obtain rfl : pages = others := List.forall₂_eq_eq_eq ▸ h
      exact refl 0 _
  | succ depth =>
      have hjoined : first.joined pages = second.joined others := by
        rw [← joined_detached first, ← joined_detached second, hfirst.detached_eq,
          map_detached_eq h]
      refine ⟨?_, filter_flatMap_children h⟩
      change (first.joined pages).detached = (second.joined others).detached
      rw [hjoined]

theorem standIn? {depth : Nat} {pages others : List Page}
    (h : List.Forall₂ (Reordered depth) pages others) :
    List.Forall₂ (Reordered depth) (Page.standIn? pages).toList (Page.standIn? others).toList := by
  cases h with
  | nil => exact .nil
  | cons hfirst hrest =>
      cases hrest with
      | nil => exact .cons hfirst .nil
      | cons hsecond hrest =>
          exact .cons (adopt_joined hfirst (.cons hfirst (.cons hsecond hrest))) .nil

end Reordered

end Page

namespace MergeConfig

variable (config : MergeConfig)

theorem filter_arrange (pages : List Page) (k : PageKind × String) :
    (config.arrange pages).filter (fun page => page.key = k) = config.block pages k := by
  rw [arrange_eq_flatMap, filter_flatMap_blocks (nodup_distinctKeys Page.key pages)
    fun _ _ _ => key_of_mem_block]
  split
  · rfl
  · rename_i h
    rw [block, filter_key_eq_nil_iff.mpr h, regroup_nil]

/-- The pages of one key are arranged without their siblings as they are among them. -/
theorem arrange_filter (pages : List Page) (k : PageKind × String) :
    config.arrange (pages.filter fun page => page.key = k) = config.block pages k := by
  rcases eq_or_ne (pages.filter fun page => page.key = k) [] with hnone | hsome
  · rw [block, hnone, regroup_nil]
    rfl
  · rw [arrange_eq_flatMap, distinctKeys_of_const hsome fun _ => key_of_mem_filter,
      List.flatMap_singleton, block, block, List.filter_filter]
    simp only [Bool.and_self]

theorem children_only_merged (root : Page) (k : PageKind × String) :
    ((config.merged root).only k).children = (config.block root.children k).map config.merged := by
  rw [Page.only, merged_eq, List.filter_map, ← filter_arrange]
  simp only [Function.comp_def, key_merged]

theorem merged_only (root : Page) (k : PageKind × String) :
    config.merged (root.only k) = (config.merged root).only k := by
  calc
    config.merged (root.only k) =
        { root with children := (config.block root.children k).map config.merged } := by
      rw [merged_eq, ← arrange_filter]
      rfl
    _ = { root with children := ((config.merged root).only k).children } := by
      rw [children_only_merged]
    _ = (config.merged root).only k := by
      rw [merged_eq]
      rfl

theorem children_merged (root : Page) :
    (config.merged root).children = (distinctKeys Page.key root.children).flatMap
      fun k => ((config.merged root).only k).children := by
  simp only [children_only_merged]
  rw [merged_eq, arrange_eq_flatMap, List.map_flatMap]

variable {config}

theorem reordered_regroup {depth : Nat} {pages others : List Page}
    (h : List.Forall₂ (Page.Reordered depth) pages others) :
    List.Forall₂ (Page.Reordered depth) (config.regroup pages) (config.regroup others) := by
  have hjoins : config.Joins pages ↔ config.Joins others := by
    rw [← config.joins_map_iff Page.detached_key, Page.Reordered.map_detached_eq h,
      config.joins_map_iff Page.detached_key]
  simp only [regroup, hjoins]
  split
  · exact Page.Reordered.standIn? h
  · exact h

theorem reordered_merged {depth : Nat} {root other : Page} (h : root.Reordered depth other) :
    (config.merged root).Reordered depth (config.merged other) := by
  induction depth generalizing root other with
  | zero => exact congrArg config.merged h
  | succ depth ih =>
      refine ⟨?_, ?_⟩
      · rw [merged, merged, detached_mergedWithin, detached_mergedWithin, h.1]
      · intro k
        rw [children_only_merged, children_only_merged, List.forall₂_map_left_iff,
          List.forall₂_map_right_iff]
        exact (reordered_regroup (h.2 k)).imp fun _ _ => ih

end MergeConfig

namespace Chain

/-- A configured chain makes of the children of one key the same with and without their siblings,
and lists the keys in the order of their first occurrence. So another way to interleave children of
different keys, on any number of levels, is only seen in the order of the keys. -/
theorem merge_only (config : MergeConfig) (root : Page) :
    ∃ result, (ofConfig config).merge root = .ok result ∧
      (∀ k, (ofConfig config).merge (root.only k) = .ok (result.only k)) ∧
      ∀ depth other, root.Reordered depth other → ∃ reordered,
        (ofConfig config).merge other = .ok reordered ∧ result.Reordered depth reordered ∧
          reordered.children = (distinctKeys Page.key other.children).flatMap
            fun k => (reordered.only k).children := by
  refine ⟨config.merged root, merge_ofConfig config root, ?_, ?_⟩
  · intro k
    rw [merge_ofConfig, config.merged_only]
  · intro depth other hother
    exact ⟨config.merged other, merge_ofConfig config other, MergeConfig.reordered_merged hother,
      config.children_merged other⟩

end Chain

end

namespace Chain

theorem merge_only_swapped :
    let page (name : String) (kind : PageKind) (children : List Page) : Page :=
      { name, kind, dris := ∅, content := .group ⟨[], {}⟩, children }
    let outer := page "Outer" .classlike [page "Inner" .classlike []]
    let run := page "run" .member []
    let root := page "root" .module [outer, run, outer]
    let other := page "root" .module [run, outer, outer]
    root.Reordered 2 other ∧ ∃ result, (ofConfig {}).merge root = .ok result ∧
      (ofConfig {}).merge (root.only outer.key) = .ok (result.only outer.key) ∧ ∃ reordered,
        (ofConfig {}).merge other = .ok reordered ∧ result.Reordered 2 reordered ∧
          reordered.children = (distinctKeys Page.key other.children).flatMap
            fun k => (reordered.only k).children := by
  intro page outer run root other
  have hswap : root.Reordered 2 other := Page.Reordered.swap (by decide) 1 root [] [outer]
  obtain ⟨result, hresult, honly, hreordered⟩ := merge_only {} root
  exact ⟨hswap, result, hresult, honly outer.key, hreordered 2 other hswap⟩

end Chain

end DocPages
