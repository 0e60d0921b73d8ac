import DocPages.Proofs.Merge.Group
import DocPages.PropertyKind

/-!
How deep merging goes.

A page that merging goes on to, with the children it was given back, is lower than the page it
stands below, though it may be a new page with the children of several. So merging is a recursion
that ends on every tree (`wellFounded_descends`), the bound on its depth is never met, and a merged
tree is no higher than it was.
-/

namespace DocPages

section

variable [PropertyFamily]

/-- A page to be merged below, and the names of the pages on the way to it. -/
structure Stage where
  above : List String
  page : Page

/-- The names on the way down to what stands directly below the page. -/
def Stage.path (stage : Stage) : List String := stage.above ++ [stage.page.name]

theorem Page.height_of_mem_reattach {merged group : List Page}
    (hmerged : ∀ page ∈ merged, page.children = []) (hgroup : group ≠ []) {page : Page}
    (hpage : page ∈ reattach merged (group.map children)) : page.height ≤ heightAll group := by
  have hne : merged ≠ [] := by
    rintro rfl
    have hnone := map_detached_reattach [] (group.map children)
    rw [List.map_nil, List.map_eq_nil_iff] at hnone
    rw [hnone] at hpage
    exact List.not_mem_nil hpage
  have hchildren : (reattach merged (group.map children)).flatMap children =
      group.flatMap children := by
    rw [flatMap_children_reattach _ hne hmerged, List.flatMap_def]
  have hbelow : heightAll page.children ≤ heightAll (group.flatMap children) := by
    apply heightAll_le_iff.mpr
    intro child hchild
    apply height_le_heightAll
    rw [← hchildren]
    exact List.mem_flatMap.mpr ⟨page, hpage, hchild⟩
  have hlower := heightAll_flatMap_children_lt hgroup
  rw [height_eq]
  omega

namespace Chain

/-- Merging goes on from a page to the pages that its children are settled into. -/
def Descends (chain : Chain) (outer inner : Stage) : Prop :=
  inner.above = outer.path ∧ ∃ group ∈ groupsBy Page.key outer.page.children, ∃ pages,
    chain.settle outer.path group = .ok pages ∧ inner.page ∈ pages

/-- Settles a group of the children of a page, and merges what stands below it as `below` says. -/
def settleBelow (chain : Chain) (below : Stage → Except Interruption Page) (path : List String)
    (group : List Page) : Except Interruption (List Page) := do
  let pages ← settled (chain.settle path group)
  pages.mapM fun page => below ⟨path, page⟩

/-- Merges one level, and what stands below it as `below` says. -/
def level (chain : Chain) (below : Stage → Except Interruption Page) (stage : Stage) :
    Except Interruption Page := do
  let families ← (groupsBy Page.key stage.page.children).mapM (chain.settleBelow below stage.path)
  return { stage.page with children := families.flatten }

/-- Merges what stands below a page. -/
def mergeBelow (chain : Chain) (stage : Stage) : Except Interruption Page :=
  chain.mergeWithin stage.page.height stage.above stage.page

theorem mergeWithin_succ (chain : Chain) (depth : Nat) (stage : Stage) :
    chain.mergeWithin (depth + 1) stage.above stage.page =
      chain.level (fun inner => chain.mergeWithin depth inner.above inner.page) stage := rfl

theorem settled_eq_ok {result : Except MergeError (List Page)} {pages : List Page}
    (h : settled result = .ok pages) : result = .ok pages := by
  cases result with
  | ok found => exact congrArg Except.ok (Except.ok.inj h)
  | error error => cases h

section level

variable {chain : Chain} {below other : Stage → Except Interruption Page} {stage : Stage}

theorem level_congr (h : ∀ inner, chain.Descends stage inner → below inner = other inner) :
    chain.level below stage = chain.level other stage := by
  have hgroups : ∀ group ∈ groupsBy Page.key stage.page.children,
      chain.settleBelow below stage.path group = chain.settleBelow other stage.path group := by
    intro group hgroup
    unfold settleBelow
    cases hpages : chain.settle stage.path group with
    | error error => rfl
    | ok pages =>
        apply mapM_congr
        intro page hpage
        exact h ⟨stage.path, page⟩ ⟨rfl, group, hgroup, pages, hpages, hpage⟩
  rw [level, level, mapM_congr hgroups]

theorem level_eq_ok {merged : Page} (h : chain.level below stage = .ok merged) :
    merged.detached = stage.page.detached ∧
      ∀ child ∈ merged.children, ∃ inner, chain.Descends stage inner ∧ below inner = .ok child := by
  obtain ⟨families, hfamilies, h⟩ := bind_eq_ok.mp h
  obtain rfl := Except.ok.inj h
  refine ⟨rfl, ?_⟩
  intro child hchild
  obtain ⟨family, hfamily, hchild⟩ := List.mem_flatten.mp hchild
  obtain ⟨group, hgroup, hfamily⟩ := exists_of_mem_mapM_eq_ok hfamilies hfamily
  obtain ⟨pages, hpages, hfamily⟩ := bind_eq_ok.mp hfamily
  obtain ⟨page, hpage, hmerged⟩ := exists_of_mem_mapM_eq_ok hfamily hchild
  exact ⟨⟨stage.path, page⟩, ⟨rfl, group, hgroup, pages, settled_eq_ok hpages, hpage⟩, hmerged⟩

theorem level_eq_tooDeep (h : chain.level below stage = .error .tooDeep) :
    ∃ inner, chain.Descends stage inner ∧ below inner = .error .tooDeep := by
  rcases bind_eq_error.mp h with hgroups | ⟨families, _, hnone⟩
  · obtain ⟨group, hgroup, hpages⟩ := exists_of_mapM_eq_error hgroups
    rw [settleBelow] at hpages
    cases hsettle : chain.settle stage.path group with
    | error error =>
        rw [hsettle] at hpages
        cases hpages
    | ok pages =>
        rw [hsettle] at hpages
        obtain ⟨page, hpage, hdeep⟩ := exists_of_mapM_eq_error hpages
        exact ⟨⟨stage.path, page⟩, ⟨rfl, group, hgroup, pages, hsettle, hpage⟩, hdeep⟩
  · cases hnone

end level

section heights

variable {chain : Chain} (hchain : ∀ strategy ∈ chain, strategy.KeepsChildless)
include hchain

theorem height_of_mem_settle {parent : List String} {group pages : List Page}
    (h : chain.settle parent group = .ok pages) {page : Page} (hpage : page ∈ pages) :
    page.height ≤ Page.heightAll group := by
  rcases group with _ | ⟨first, _ | ⟨second, rest⟩⟩
  · obtain rfl := Except.ok.inj h
    exact absurd hpage List.not_mem_nil
  · obtain rfl := Except.ok.inj h
    exact Page.height_le_heightAll hpage
  · obtain ⟨merged, hmerged, h⟩ := bind_eq_ok.mp h
    obtain rfl := Except.ok.inj h
    have hchildless := childless_run hchain (Page.childless_map_detached _) hmerged
    exact Page.height_of_mem_reattach hchildless (List.cons_ne_nil _ _) hpage

theorem height_lt_of_descends {outer inner : Stage} (h : chain.Descends outer inner) :
    inner.page.height < outer.page.height := by
  obtain ⟨_, group, hgroup, pages, hpages, hpage⟩ := h
  have hgroupHeight : Page.heightAll group ≤ Page.heightAll outer.page.children := by
    apply Page.heightAll_le_iff.mpr
    intro member hmember
    exact Page.height_le_heightAll (mem_of_mem_group hgroup hmember)
  have hle := height_of_mem_settle hchain hpages hpage
  rw [outer.page.height_eq]
  omega

theorem wellFounded_descends : WellFounded fun inner outer => chain.Descends outer inner :=
  Subrelation.wf (fun h => height_lt_of_descends hchain h)
    (measure fun stage : Stage => stage.page.height).wf

theorem mergeWithin_eq_mergeBelow {depth : Nat} {stage : Stage}
    (h : stage.page.height ≤ depth) :
    chain.mergeWithin depth stage.above stage.page = chain.mergeBelow stage := by
  induction stage using (wellFounded_descends hchain).induction generalizing depth with
  | _ stage ih =>
      cases depth with
      | zero => exact absurd h stage.page.not_height_le_zero
      | succ depth =>
          have hbelow {enough : Nat} (henough : Page.heightAll stage.page.children ≤ enough) :
              chain.mergeWithin (enough + 1) stage.above stage.page =
                chain.level chain.mergeBelow stage := by
            rw [mergeWithin_succ]
            apply level_congr
            intro inner hinner
            apply ih inner hinner
            have hlower := height_lt_of_descends hchain hinner
            rw [stage.page.height_eq] at hlower
            omega
          rw [mergeBelow, stage.page.height_eq, hbelow (Page.heightAll_children_le h),
            hbelow (Nat.le_refl _)]

/-- Without a bound, merging is one level after the other. -/
theorem mergeBelow_eq (stage : Stage) :
    chain.mergeBelow stage = chain.level chain.mergeBelow stage := by
  rw [← mergeWithin_eq_mergeBelow hchain (Nat.le_succ _), mergeWithin_succ]
  apply level_congr
  intro inner hinner
  exact mergeWithin_eq_mergeBelow hchain (Nat.le_of_lt (height_lt_of_descends hchain hinner))

theorem eq_mergeBelow_of_level {run : Stage → Except Interruption Page}
    (hrun : ∀ stage, run stage = chain.level run stage) : run = chain.mergeBelow := by
  funext stage
  induction stage using (wellFounded_descends hchain).induction with
  | _ stage ih => rw [hrun, mergeBelow_eq hchain, level_congr ih]

theorem mergeBelow_ends (stage : Stage) :
    (∃ result, chain.mergeBelow stage = .ok result ∧ result.height ≤ stage.page.height) ∨
      ∃ error, chain.mergeBelow stage = .error (.refused error) := by
  induction stage using (wellFounded_descends hchain).induction with
  | _ stage ih =>
      cases hmerge : chain.mergeBelow stage with
      | error interruption =>
          cases interruption with
          | refused error => exact .inr ⟨error, rfl⟩
          | tooDeep =>
              -- a bound is only ever met further down, where none is by induction
              rw [mergeBelow_eq hchain] at hmerge
              obtain ⟨inner, hinner, hdeep⟩ := level_eq_tooDeep hmerge
              rcases ih inner hinner with ⟨result, hresult, _⟩ | ⟨error, herror⟩
              · rw [hdeep] at hresult
                cases hresult
              · rw [hdeep] at herror
                cases herror
      | ok result =>
          refine .inl ⟨result, rfl, ?_⟩
          rw [mergeBelow_eq hchain] at hmerge
          have hchildren : Page.heightAll result.children ≤
              Page.heightAll stage.page.children := by
            apply Page.heightAll_le_iff.mpr
            intro child hchild
            obtain ⟨inner, hinner, hmerged⟩ := (level_eq_ok hmerge).2 child hchild
            have hlower := height_lt_of_descends hchain hinner
            rw [stage.page.height_eq] at hlower
            rcases ih inner hinner with ⟨other, hother, hle⟩ | ⟨error, herror⟩
            · rw [hmerged] at hother
              obtain rfl := Except.ok.inj hother
              omega
            · rw [hmerged] at herror
              cases herror
          rw [result.height_eq, stage.page.height_eq]
          omega

/-- If no strategy brings children of its own, merging goes on to lower pages only, whatever pages
the strategies make. It therefore is the one solution of its recursion, which no bound cuts short,
and a merged tree is no higher than it was. -/
theorem merge_never_deepens :
    (∀ outer inner, chain.Descends outer inner → inner.page.height < outer.page.height) ∧
      (WellFounded fun inner outer => chain.Descends outer inner) ∧
      (∀ run, (∀ stage, run stage = chain.level run stage) ↔ run = chain.mergeBelow) ∧
      ∀ root, chain.merge root = chain.mergeBelow ⟨[], root⟩ ∧
        ((∃ result, chain.merge root = .ok result ∧ result.height ≤ root.height) ∨
          ∃ error, chain.merge root = .error (.refused error)) := by
  refine ⟨?_, wellFounded_descends hchain, ?_, ?_⟩
  · intro outer inner h
    exact height_lt_of_descends hchain h
  · intro run
    refine ⟨eq_mergeBelow_of_level hchain, ?_⟩
    rintro rfl
    exact mergeBelow_eq hchain
  · intro root
    exact ⟨rfl, mergeBelow_ends hchain ⟨[], root⟩⟩

end heights

end Chain

end

namespace Chain

theorem merge_never_deepens_double :
    let root : Page :=
      { name := "root", kind := .module, dris := ∅, content := .group ⟨[], {}⟩,
        children := Page.sameClass }
    let heir : Page :=
      { name := "Foo", kind := .classlike, dris := ∅, content := .group ⟨[], {}⟩,
        resources := ["jvm.html"], children := Page.sameClass.flatMap Page.children }
    (∀ strategy ∈ [Strategy.double], strategy.KeepsChildless) ∧
      Descends [.double] ⟨[], root⟩ ⟨["root"], heir⟩ ∧ heir.height < root.height ∧
      (WellFounded fun inner outer => Descends [.double] outer inner) ∧
      (∀ stage, mergeBelow [.double] stage = level [.double] (mergeBelow [.double]) stage) ∧
      ∃ result, merge [.double] root = .ok result ∧ result.height ≤ root.height := by
  intro root heir
  have hkeeps : ∀ strategy ∈ [Strategy.double], strategy.KeepsChildless :=
    List.forall_mem_singleton.mpr Strategy.keepsChildless_double
  have hheir : Descends [.double] ⟨[], root⟩ ⟨["root"], heir⟩ :=
    ⟨rfl, Page.sameClass, List.mem_singleton_self _, _, rfl, List.mem_cons_self⟩
  obtain ⟨hlower, hends, hlevels, hmerge⟩ := merge_never_deepens hkeeps
  refine ⟨hkeeps, hheir, hlower _ _ hheir, hends, (hlevels _).mpr rfl, ?_⟩
  rcases (hmerge root).2 with hresult | ⟨error, herror⟩
  · exact hresult
  · cases herror

end Chain

end DocPages
