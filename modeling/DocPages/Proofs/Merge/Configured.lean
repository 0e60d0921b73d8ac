import DocPages.Proofs.Grouping
import DocPages.Proofs.PageTree
import DocPages.Proofs.Traversal

/-!
What a configured chain makes of a page tree.

A configured chain never refuses, and what it does to a group depends only on whether it joins the
group. Merging is therefore a plain function of the tree, `MergeConfig.merged`.
-/

namespace DocPages

variable [PropertyFamily]

namespace Strategy

theorem merge_sameClassName (first : Page) (rest : List Page) (path : List String)
    (h : ∀ page ∈ first :: rest, page.isClasslike) :
    sameClassName.merge (first :: rest) path = .ok [first.joined (first :: rest)] := by
  have hnone : (first :: rest).find? (fun page => !page.isClasslike) = none := by
    apply List.find?_eq_none.mpr
    intro page hpage
    simp [h page hpage]
  simp only [sameClassName, hnone]

theorem accepts_sameClassName_iff {pages : List Page} :
    sameClassName.accepts pages = true ↔ pages ≠ [] ∧ ∀ page ∈ pages, page.isClasslike := by
  simp [sameClassName]

end Strategy

namespace Page

theorem joined_detached (first : Page) (pages : List Page) :
    first.detached.joined (pages.map detached) = first.joined pages := by
  simp only [joined, platformsOf, List.map_map, List.flatMap_map]
  rfl

theorem reattach_map_detached (pages : List Page) :
    reattach (pages.map detached) (pages.map children) = pages := by
  unfold reattach
  rw [if_pos (by simp)]
  induction pages with
  | nil => rfl
  | cons page rest ih =>
      rw [List.map_cons, List.map_cons, List.zipWith_cons_cons, ih, adopt_detached]

theorem reattach_singleton (page : Page) {families : List (List Page)} (h : 1 < families.length) :
    reattach [page] families = [page.adopt families.flatten] := by
  unfold reattach
  rw [if_neg]
  simp only [List.length_cons, List.length_nil]
  omega

/-- The page that stands for some pages: the only one of them, or the page joined from all of them
with the children of all. -/
def standIn? : List Page → Option Page
  | [] => none
  | [page] => some page
  | first :: second :: rest => some ((first.joined (first :: second :: rest)).adopt
      ((first :: second :: rest).flatMap children))

end Page

namespace MergeConfig

variable (config : MergeConfig)

/-- Whether the configured strategies make one page of several. -/
def Joins (pages : List Page) : Prop :=
  .sameClassName ∈ config.strategies ∧ 1 < pages.length ∧ ∀ page ∈ pages, page.isClasslike

instance (pages : List Page) : Decidable (config.Joins pages) :=
  inferInstanceAs (Decidable (_ ∧ _ ∧ _))

theorem not_joins_of_length_le_one {pages : List Page} (h : pages.length ≤ 1) :
    ¬ config.Joins pages := by
  rintro ⟨_, hmany, _⟩
  omega

theorem not_joins_singleton (page : Page) : ¬ config.Joins [page] :=
  config.not_joins_of_length_le_one (Nat.le_refl 1)

theorem joins_map_iff {f : Page → Page} (hf : ∀ page, (f page).key = page.key)
    (pages : List Page) : config.Joins (pages.map f) ↔ config.Joins pages := by
  simp only [Joins, List.length_map, List.forall_mem_map, Page.isClasslike_iff, hf]

/-- What the pages of one group become. -/
def regroup (group : List Page) : List Page :=
  if config.Joins group then (Page.standIn? group).toList else group

theorem regroup_of_not_joins {group : List Page} (h : ¬ config.Joins group) :
    config.regroup group = group := by
  rw [regroup, if_neg h]

theorem regroup_nil : config.regroup [] = [] :=
  config.regroup_of_not_joins (config.not_joins_of_length_le_one (Nat.zero_le 1))

/-- What the children of a page become before merging goes on below them. -/
def arrange (pages : List Page) : List Page :=
  (groupsBy Page.key pages).flatMap config.regroup

/-- A tree in which the uppermost levels, as many as `depth` says, are merged. -/
def mergedWithin : Nat → Page → Page
  | 0, page => page
  | depth + 1, page =>
      { page with children := (config.arrange page.children).map (mergedWithin depth) }

def merged (root : Page) : Page := config.mergedWithin root.height root

end MergeConfig

namespace Chain

theorem run_of_length_le_one (chain : Chain) (path : List String) {pages : List Page}
    (h : pages.length ≤ 1) : chain.run path pages = .ok pages := by
  cases chain with
  | nil => rfl
  | cons strategy rest => rw [run, if_pos h]

theorem run_ofConfig (config : MergeConfig) (path : List String) (first : Page)
    (rest : List Page) :
    (ofConfig config).run path (first :: rest) =
      .ok (if config.Joins (first :: rest) then [first.joined (first :: rest)]
        else first :: rest) := by
  obtain ⟨strategies⟩ := config
  induction strategies with
  | nil =>
      rw [if_neg fun h => List.not_mem_nil h.1]
      rfl
  | cons name names ih =>
      rcases Nat.lt_or_ge 1 (first :: rest).length with hmany | hlength
      · have hne : first :: rest ≠ [] := List.cons_ne_nil first rest
        simp only [ofConfig, List.map_cons, run, if_neg (Nat.not_le_of_lt hmany)]
        cases name with
        | sameClassName =>
            cases haccepts : Strategy.sameClassName.accepts (first :: rest) with
            | true =>
                have hall := (Strategy.accepts_sameClassName_iff.mp haccepts).2
                have hjoins : MergeConfig.Joins ⟨.sameClassName :: names⟩ (first :: rest) :=
                  ⟨List.mem_cons_self, hmany, hall⟩
                simp only [StrategyName.strategy, haccepts, if_true, if_pos hjoins,
                  Strategy.merge_sameClassName first rest path hall]
                exact run_of_length_le_one _ path (Nat.le_refl 1)
            | false =>
                have hjoins (config : MergeConfig) : ¬ config.Joins (first :: rest) := by
                  rintro ⟨_, _, hall⟩
                  rw [Strategy.accepts_sameClassName_iff.mpr ⟨hne, hall⟩] at haccepts
                  cases haccepts
                simp only [StrategyName.strategy, haccepts, Bool.false_eq_true, if_false]
                rw [if_neg (hjoins _)] at ih ⊢
                exact ih
        | default =>
            have hjoins : MergeConfig.Joins ⟨.default :: names⟩ (first :: rest) ↔
                MergeConfig.Joins ⟨names⟩ (first :: rest) := by
              simp [MergeConfig.Joins]
            simp only [hjoins]
            exact ih
      · rw [run_of_length_le_one _ _ hlength,
          if_neg (MergeConfig.not_joins_of_length_le_one _ hlength)]

theorem settle_ofConfig (config : MergeConfig) (parent : List String) (group : List Page) :
    (ofConfig config).settle parent group = .ok (config.regroup group) := by
  rcases group with _ | ⟨first, _ | ⟨second, rest⟩⟩
  · rw [config.regroup_nil]
    rfl
  · have hjoins := config.not_joins_singleton first
    rw [config.regroup_of_not_joins hjoins]
    rfl
  · have hjoins := config.joins_map_iff Page.detached_key (first :: second :: rest)
    have hrun := run_ofConfig config (parent ++ [first.name]) first.detached
      ((second :: rest).map Page.detached)
    simp only [settle, mergeGroup, MergeConfig.regroup]
    rw [List.map_cons, hrun, ← List.map_cons (f := Page.detached), Page.joined_detached]
    simp only [hjoins]
    split
    · have hmany : 1 < ((first :: second :: rest).map Page.children).length := by simp
      exact congrArg Except.ok (Page.reattach_singleton _ hmany)
    · exact congrArg Except.ok (Page.reattach_map_detached _)

end Chain

theorem Page.height_standIn? {pages : List Page} {page : Page}
    (h : Page.standIn? pages = some page) : page.height ≤ Page.heightAll pages := by
  rcases pages with _ | ⟨first, _ | ⟨second, rest⟩⟩
  · simp [standIn?] at h
  · obtain rfl := Option.some.inj h
    exact height_le_heightAll List.mem_cons_self
  · obtain rfl := Option.some.inj h
    have hchildren : ((first.joined (first :: second :: rest)).adopt
        ((first :: second :: rest).flatMap children)).children =
        (first :: second :: rest).flatMap children := rfl
    rw [height_eq, hchildren]
    exact heightAll_flatMap_children_lt (List.cons_ne_nil first (second :: rest))

namespace MergeConfig

variable (config : MergeConfig)

theorem detached_mergedWithin (depth : Nat) (page : Page) :
    (config.mergedWithin depth page).detached = page.detached := by
  cases depth with
  | zero => rfl
  | succ depth => rfl

theorem key_mergedWithin (depth : Nat) (page : Page) :
    (config.mergedWithin depth page).key = page.key := by
  rw [← Page.detached_key, detached_mergedWithin, Page.detached_key]

theorem height_of_mem_arrange {pages : List Page} {page : Page} (h : page ∈ config.arrange pages) :
    page.height ≤ Page.heightAll pages := by
  obtain ⟨group, hgroup, hmem⟩ := List.mem_flatMap.mp h
  have hsub : Page.heightAll group ≤ Page.heightAll pages := by
    apply Page.heightAll_le_iff.mpr
    intro member hmember
    exact Page.height_le_heightAll (mem_of_mem_group hgroup hmember)
  refine Nat.le_trans ?_ hsub
  rw [regroup] at hmem
  split at hmem
  · exact Page.height_standIn? (Option.mem_toList.mp hmem)
  · exact Page.height_le_heightAll hmem

/-- Induction along the children of pages as they are arranged. -/
theorem arrange_induction {motive : Page → Prop}
    (step : ∀ page, (∀ child ∈ config.arrange page.children, motive child) → motive page)
    (page : Page) : motive page := by
  apply step
  intro child hchild
  exact arrange_induction step child
termination_by page.height
decreasing_by
  have hle := config.height_of_mem_arrange hchild
  rw [page.height_eq]
  omega

theorem mergedWithin_of_height_le {depth : Nat} {page : Page} (h : page.height ≤ depth) :
    config.mergedWithin depth page = config.merged page := by
  induction page using config.arrange_induction generalizing depth with
  | step page ih =>
      cases depth with
      | zero => exact absurd h page.not_height_le_zero
      | succ depth =>
          have hbelow {enough : Nat} (henough : Page.heightAll page.children ≤ enough) :
              (config.arrange page.children).map (config.mergedWithin enough) =
                (config.arrange page.children).map config.merged := by
            apply List.map_congr_left
            intro child hchild
            exact ih child hchild (Nat.le_trans (config.height_of_mem_arrange hchild) henough)
          rw [merged, page.height_eq, mergedWithin, mergedWithin,
            hbelow (Page.heightAll_children_le h), hbelow (Nat.le_refl _)]

theorem merged_eq (root : Page) :
    config.merged root =
      { root with children := (config.arrange root.children).map config.merged } := by
  have hheight : root.height = Page.heightAll root.children + 1 := root.height_eq
  rw [merged, hheight, mergedWithin]
  congr 1
  apply List.map_congr_left
  intro child hchild
  exact config.mergedWithin_of_height_le (config.height_of_mem_arrange hchild)

theorem key_merged (page : Page) : (config.merged page).key = page.key :=
  config.key_mergedWithin _ page

end MergeConfig

namespace Chain

theorem mergeWithin_ofConfig (config : MergeConfig) {depth : Nat} {page : Page}
    (h : page.height ≤ depth) (above : List String) :
    (ofConfig config).mergeWithin depth above page = .ok (config.mergedWithin depth page) := by
  induction depth generalizing page above with
  | zero => exact absurd h page.not_height_le_zero
  | succ depth ih =>
      have hgroup : ∀ group ∈ groupsBy Page.key page.children,
          (do
            let pages ← settled ((ofConfig config).settle (above ++ [page.name]) group)
            pages.mapM ((ofConfig config).mergeWithin depth (above ++ [page.name]))) =
          .ok ((config.regroup group).map (config.mergedWithin depth)) := by
        intro group hgroup
        rw [settle_ofConfig]
        apply mapM_eq_ok
        intro child hchild
        apply ih
        have hmem : child ∈ config.arrange page.children :=
          List.mem_flatMap.mpr ⟨group, hgroup, hchild⟩
        exact Nat.le_trans (config.height_of_mem_arrange hmem) (Page.heightAll_children_le h)
      rw [mergeWithin, mapM_eq_ok hgroup]
      have hflatten : ((groupsBy Page.key page.children).map fun group =>
          (config.regroup group).map (config.mergedWithin depth)).flatten =
          (config.arrange page.children).map (config.mergedWithin depth) := by
        rw [MergeConfig.arrange, List.map_flatMap, List.flatMap_def]
      simp only [MergeConfig.mergedWithin, ← hflatten]
      rfl

/-- A configured chain merges every tree. -/
theorem merge_ofConfig (config : MergeConfig) (root : Page) :
    (ofConfig config).merge root = .ok (config.merged root) :=
  mergeWithin_ofConfig config (Nat.le_refl _) []

end Chain

end DocPages
