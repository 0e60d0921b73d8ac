import DocPages.Config.Validate
import DocPages.Merge.Stock
import DocPages.Proofs.Merge.Joining
import DocPages.PropertyKind

namespace DocPages

section

variable [PropertyFamily]

namespace Strategy

/-- The strategy as it is within its contract, refusing all else: fewer than two pages, and pages
that it does not accept. -/
def guarded (breach : MergeError) (strategy : Strategy) : Strategy :=
  { strategy with
    merge := fun pages path =>
      if pages.length < 2 ∨ ¬ strategy.accepts pages then .error breach
      else strategy.merge pages path }

/-- Refuses also pages that have children. -/
def strictlyGuarded (breach : MergeError) (strategy : Strategy) : Strategy :=
  { strategy with
    merge := fun pages path =>
      if pages.any fun page => !page.children.isEmpty then .error breach
      else (strategy.guarded breach).merge pages path }

/-- Whether the strategy makes childless pages of childless pages. -/
def KeepsChildless (strategy : Strategy) : Prop :=
  ∀ pages path merged, (∀ page ∈ pages, page.children = []) →
    strategy.merge pages path = .ok merged → ∀ page ∈ merged, page.children = []

theorem merge_guarded (breach : MergeError) (strategy : Strategy) {pages : List Page}
    (hmany : ¬ pages.length ≤ 1) (haccepts : strategy.accepts pages = true)
    (path : List String) :
    (strategy.guarded breach).merge pages path = strategy.merge pages path := by
  apply if_neg
  rintro (hfew | hdeclines)
  · omega
  · exact hdeclines haccepts

theorem merge_strictlyGuarded (breach : MergeError) (strategy : Strategy) {pages : List Page}
    (hmany : ¬ pages.length ≤ 1) (haccepts : strategy.accepts pages = true)
    (hchildless : ∀ page ∈ pages, page.children = []) (path : List String) :
    (strategy.strictlyGuarded breach).merge pages path = strategy.merge pages path := by
  refine (if_neg ?_).trans (merge_guarded breach strategy hmany haccepts path)
  intro hany
  obtain ⟨page, hpage, hchildren⟩ := List.any_eq_true.mp hany
  simp [hchildless page hpage] at hchildren

theorem merge_sameClassName_eq_error {pages : List Page}
    (h : sameClassName.accepts pages = false) (path : List String) :
    ∃ error, sameClassName.merge pages path = .error error := by
  cases hmerge : sameClassName.merge pages path with
  | error error => exact ⟨error, rfl⟩
  | ok merged =>
      obtain ⟨first, rest, rfl, hclasslike, _⟩ := merge_sameClassName_eq_ok_iff.mp hmerge
      rw [accepts_sameClassName_iff.mpr ⟨List.cons_ne_nil first rest, hclasslike⟩] at h
      cases h

theorem keepsChildless_sameClassName : sameClassName.KeepsChildless := by
  intro pages path merged _ hmerge page hpage
  obtain ⟨first, rest, _, _, rfl⟩ := merge_sameClassName_eq_ok_iff.mp hmerge
  obtain rfl := List.mem_singleton.mp hpage
  rfl

theorem keepsChildless_reverse : reverse.KeepsChildless := by
  intro pages path merged hpages hmerge page hpage
  obtain rfl := Except.ok.inj hmerge
  exact hpages page (List.mem_reverse.mp hpage)

end Strategy

namespace Chain

/-- Changing strategies leaves a run as it is if they differ only on pages that never reach them:
the run keeps `Reachable`, and calls strategies for several pages that they accept. -/
theorem run_map_eq (Reachable : List Page → Prop) {change : Strategy → Strategy} {chain : Chain}
    (haccepts : ∀ strategy, (change strategy).accepts = strategy.accepts)
    (hmerge : ∀ strategy ∈ chain, ∀ pages path, Reachable pages → ¬ pages.length ≤ 1 →
      strategy.accepts pages = true →
        (change strategy).merge pages path = strategy.merge pages path)
    (hkeeps : ∀ strategy ∈ chain, ∀ pages path merged, Reachable pages →
      strategy.merge pages path = .ok merged → Reachable merged)
    (path : List String) {pages : List Page} (hpages : Reachable pages) :
    run path (chain.map change) pages = chain.run path pages := by
  induction chain generalizing pages with
  | nil => rfl
  | cons strategy rest ih =>
      have htail {left : List Page} (hleft : Reachable left) :
          run path (rest.map change) left = run path rest left := by
        apply ih _ _ hleft
        · intro other hother
          exact hmerge other (List.mem_cons_of_mem strategy hother)
        · intro other hother
          exact hkeeps other (List.mem_cons_of_mem strategy hother)
      rw [List.map_cons, run, run, haccepts]
      split
      · rfl
      · rename_i hmany
        split
        · rename_i haccept
          rw [hmerge strategy List.mem_cons_self pages path hpages hmany haccept]
          cases hmerged : strategy.merge pages path with
          | error error => rfl
          | ok merged =>
              exact htail (hkeeps strategy List.mem_cons_self pages path merged hpages hmerged)
        · exact htail hpages

theorem run_map_guarded (breach : MergeError) (chain : Chain) (path : List String)
    (pages : List Page) :
    run path (chain.map (Strategy.guarded breach)) pages = chain.run path pages := by
  apply run_map_eq fun _ => True
  · intro strategy
    rfl
  · intro strategy _ pages path _ hmany haccepts
    exact Strategy.merge_guarded breach strategy hmany haccepts path
  · intros
    trivial
  · trivial

theorem run_map_strictlyGuarded (breach : MergeError) {chain : Chain}
    (hchain : ∀ strategy ∈ chain, strategy.KeepsChildless) (path : List String)
    {pages : List Page} (hpages : ∀ page ∈ pages, page.children = []) :
    run path (chain.map (Strategy.strictlyGuarded breach)) pages = chain.run path pages := by
  apply run_map_eq fun pages => ∀ page ∈ pages, page.children = []
  · intro strategy
    rfl
  · intro strategy _ pages path hchildless hmany haccepts
    exact Strategy.merge_strictlyGuarded breach strategy hmany haccepts hchildless path
  · intro strategy hstrategy pages path merged hchildless hmerged
    exact hchain strategy hstrategy pages path merged hchildless hmerged
  · exact hpages

theorem mergeWithin_congr {chain other : Chain}
    (h : ∀ path pages, (∀ page ∈ pages, page.children = []) →
      chain.run path pages = other.run path pages) :
    chain.mergeWithin = other.mergeWithin := by
  have hsettle : chain.settle = other.settle := by
    funext parent group
    rcases group with _ | ⟨first, _ | ⟨second, rest⟩⟩
    · rfl
    · rfl
    · have hdetached : ∀ page ∈ (first :: second :: rest).map Page.detached,
          page.children = [] := by
        intro page hpage
        obtain ⟨source, _, rfl⟩ := List.mem_map.mp hpage
        rfl
      simp only [settle, mergeGroup]
      rw [h _ _ hdetached]
  funext depth
  induction depth with
  | zero => rfl
  | succ depth ih =>
      funext above page
      rw [mergeWithin, mergeWithin, hsettle, ih]

/-- Whatever bound is put on the depth of merging, strategies that refuse everything outside their
contract change nothing. A configured chain therefore merges every tree, though joining class-like
pages fails outside its contract. -/
theorem merge_within_contract (chain : Chain) (breach : MergeError) :
    mergeWithin (chain.map (Strategy.guarded breach)) = chain.mergeWithin ∧
      ((∀ strategy ∈ chain, strategy.KeepsChildless) →
        mergeWithin (chain.map (Strategy.strictlyGuarded breach)) = chain.mergeWithin) ∧
      (∀ config : Config, config.validate = .ok () → ∀ root, ∃ result,
        (ofConfig config.merge).merge root = .ok result) ∧
      ∀ pages path, Strategy.sameClassName.accepts pages = false → ∃ error,
        Strategy.sameClassName.merge pages path = .error error := by
  refine ⟨?_, ?_, ?_, ?_⟩
  · apply mergeWithin_congr
    intro path pages _
    exact run_map_guarded breach chain path pages
  · intro hchain
    apply mergeWithin_congr
    intro path pages hpages
    exact run_map_strictlyGuarded breach hchain path hpages
  · intro config _ root
    exact ⟨config.merge.merged root, merge_ofConfig config.merge root⟩
  · intro pages path hdeclines
    exact Strategy.merge_sameClassName_eq_error hdeclines path

end Chain

end

namespace Chain

theorem merge_within_contract_reverse_sameClassName :
    let page (name : String) (kind : PageKind) (children : List Page) : Page :=
      { name, kind, dris := ∅, content := .group ⟨[], {}⟩, children }
    let run := page "run" .member []
    let foo := page "Foo" .classlike [run]
    let root := page "root" .module [page "a" .package [foo, run, foo, run]]
    let chain : Chain := [.reverse, .sameClassName]
    let config : Config := { merge := { strategies := [.default, .sameClassName] } }
    (∀ strategy ∈ chain, strategy.KeepsChildless) ∧
      mergeWithin (chain.map (Strategy.strictlyGuarded (.empty "out of contract"))) =
        chain.mergeWithin ∧
      config.validate = .ok () ∧ (∃ result, (ofConfig config.merge).merge root = .ok result) ∧
      Strategy.sameClassName.accepts [foo, run] = false ∧
      ∃ error, Strategy.sameClassName.merge [foo, run] ["root", "a"] = .error error := by
  intro page run foo root chain config
  have hkeeps : ∀ strategy ∈ chain, strategy.KeepsChildless := by
    rw [List.forall_mem_cons, List.forall_mem_singleton]
    exact ⟨Strategy.keepsChildless_reverse, Strategy.keepsChildless_sameClassName⟩
  have hdeclines : Strategy.sameClassName.accepts [foo, run] = false := rfl
  obtain ⟨_, hstrict, hconfigured, hrefused⟩ :=
    merge_within_contract chain (.empty "out of contract")
  exact ⟨hkeeps, hstrict hkeeps, rfl, hconfigured config rfl root, hdeclines,
    hrefused [foo, run] ["root", "a"] hdeclines⟩

end Chain

end DocPages
