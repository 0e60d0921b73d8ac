import DocPages.Proofs.Merge.Configured
import DocPages.PropertyKind

namespace DocPages

section

variable [PropertyFamily]

namespace Page

/-- The pages key by key, the keys in the order of their first occurrence and the pages of one key
in their own order. -/
def keyByKey (pages : List Page) : List Page :=
  (distinctKeys key pages).flatMap fun k => pages.filter fun page => page.key = k

mutual

/-- The tree in which the children of every page stand key by key. -/
def regrouped : Page → Page
  | ⟨name, kind, dris, content, documentable, resources, children⟩ =>
      ⟨name, kind, dris, content, documentable, resources, keyByKey (regroupedAll children)⟩

def regroupedAll : List Page → List Page
  | [] => []
  | page :: rest => page.regrouped :: regroupedAll rest

end

theorem regroupedAll_eq_map (pages : List Page) : regroupedAll pages = pages.map regrouped := by
  induction pages with
  | nil => rfl
  | cons page rest ih => rw [regroupedAll, ih, List.map_cons]

theorem regrouped_eq (page : Page) :
    page.regrouped = { page with children := keyByKey (page.children.map regrouped) } := by
  cases page
  rw [regrouped, regroupedAll_eq_map]

theorem keyByKey_map {f : Page → Page} (hf : ∀ page, (f page).key = page.key)
    (pages : List Page) : keyByKey (pages.map f) = (keyByKey pages).map f := by
  have hkey : key ∘ f = key := funext hf
  have hkeys : distinctKeys key (pages.map f) = distinctKeys key pages := by
    rw [distinctKeys, List.map_map, hkey, distinctKeys]
  rw [keyByKey, hkeys, keyByKey, List.map_flatMap]
  apply List.flatMap_congr
  intro k _
  rw [List.filter_map]
  simp only [Function.comp_def, hf]

end Page

namespace MergeConfig

variable {config other : MergeConfig}

theorem mergedWithin_congr
    (h : .sameClassName ∈ config.strategies ↔ .sameClassName ∈ other.strategies) (depth : Nat) :
    config.mergedWithin depth = other.mergedWithin depth := by
  have hregroup : config.regroup = other.regroup := by
    funext group
    have hjoins : config.Joins group ↔ other.Joins group := and_congr_left fun _ => h
    exact if_congr hjoins rfl rfl
  have harrange : config.arrange = other.arrange := by
    funext pages
    rw [arrange, arrange, hregroup]
  induction depth with
  | zero => rfl
  | succ depth ih =>
      funext page
      rw [mergedWithin, mergedWithin, harrange, ih]

theorem arrange_of_not_mem (h : .sameClassName ∉ config.strategies) (pages : List Page) :
    config.arrange pages = Page.keyByKey pages := by
  have hregroup : config.regroup = id := by
    funext group
    apply config.regroup_of_not_joins
    intro hjoins
    exact h hjoins.1
  rw [arrange, groupsBy_eq, List.flatMap_map, hregroup]
  rfl

theorem mergedWithin_of_not_mem (h : .sameClassName ∉ config.strategies) {depth : Nat}
    {page : Page} (hheight : page.height ≤ depth) :
    config.mergedWithin depth page = page.regrouped := by
  induction depth generalizing page with
  | zero => exact absurd hheight page.not_height_le_zero
  | succ depth ih =>
      have hchildren : page.children.map (config.mergedWithin depth) =
          page.children.map Page.regrouped := by
        apply List.map_congr_left
        intro child hchild
        apply ih
        exact Nat.le_trans (Page.height_le_heightAll hchild) (Page.heightAll_children_le hheight)
      rw [mergedWithin, arrange_of_not_mem h, ← Page.keyByKey_map (config.key_mergedWithin depth),
        hchildren, Page.regrouped_eq]

end MergeConfig

namespace Chain

/-- Configurations that both name the joining strategy, or both do not, merge every tree alike.
Without that strategy the children of every page are put key by key, and nothing else changes. -/
theorem merge_ofConfig_congr {config other : MergeConfig}
    (h : .sameClassName ∈ config.strategies ↔ .sameClassName ∈ other.strategies) (root : Page) :
    ∃ result, (ofConfig config).merge root = .ok result ∧
      (ofConfig other).merge root = .ok result ∧
      (.sameClassName ∉ config.strategies → result = root.regrouped) := by
  refine ⟨config.merged root, merge_ofConfig config root, ?_, ?_⟩
  · rw [merge_ofConfig, MergeConfig.merged, MergeConfig.merged, MergeConfig.mergedWithin_congr h]
  · intro hnone
    exact MergeConfig.mergedWithin_of_not_mem hnone (Nat.le_refl _)

end Chain

end

namespace Chain

theorem merge_ofConfig_congr_repeated :
    let page (name : String) (children : List Page) : Page :=
      { name, kind := .classlike, dris := ∅, content := .group ⟨[], {}⟩, children }
    let root := page "root" [page "A" [page "B" []], page "C" [], page "A" []]
    let repeated : MergeConfig := ⟨[.default, .sameClassName, .default]⟩
    ((.sameClassName ∈ repeated.strategies ↔ .sameClassName ∈ ({} : MergeConfig).strategies) ∧
      ∃ result, (ofConfig repeated).merge root = .ok result ∧
        (ofConfig {}).merge root = .ok result) ∧
      (.sameClassName ∈ (⟨[.default]⟩ : MergeConfig).strategies ↔
        .sameClassName ∈ (⟨[]⟩ : MergeConfig).strategies) ∧
      .sameClassName ∉ (⟨[.default]⟩ : MergeConfig).strategies ∧
      (ofConfig ⟨[.default]⟩).merge root = .ok root.regrouped ∧
      (ofConfig ⟨[]⟩).merge root = .ok root.regrouped := by
  intro page root repeated
  have hboth : .sameClassName ∈ repeated.strategies ↔
      .sameClassName ∈ ({} : MergeConfig).strategies := by decide
  have hneither : .sameClassName ∈ (⟨[.default]⟩ : MergeConfig).strategies ↔
      .sameClassName ∈ (⟨[]⟩ : MergeConfig).strategies := by decide
  have hnone : .sameClassName ∉ (⟨[.default]⟩ : MergeConfig).strategies := by decide
  obtain ⟨result, hrepeated, husual, _⟩ := merge_ofConfig_congr hboth root
  obtain ⟨kept, hkept, hempty, hregrouped⟩ := merge_ofConfig_congr hneither root
  rw [hregrouped hnone] at hkept hempty
  exact ⟨⟨hboth, result, hrepeated, husual⟩, hneither, hnone, hkept, hempty⟩

end Chain

end DocPages
