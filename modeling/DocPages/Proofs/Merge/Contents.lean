import DocPages.Proofs.Merge.Descent

namespace DocPages

variable [PropertyFamily]

namespace Page

/-- All pages of a tree have content with a property. -/
def Throughout (P : Node → Prop) (root : Page) : Prop :=
  ∀ address page, root.at? address = some page → P page.content

variable {P : Node → Prop}

theorem throughout_iff {page : Page} :
    page.Throughout P ↔ P page.content ∧ ∀ child ∈ page.children, child.Throughout P :=
  forall_at?_iff

theorem Throughout.detached {page : Page} (h : page.Throughout P) : page.detached.Throughout P :=
  throughout_iff.mpr ⟨(throughout_iff.mp h).1, List.forall_mem_nil _⟩

theorem Throughout.adopt {page : Page} (h : page.Throughout P) {further : List Page}
    (hfurther : ∀ child ∈ further, child.Throughout P) : (page.adopt further).Throughout P := by
  obtain ⟨hcontent, hchildren⟩ := throughout_iff.mp h
  exact throughout_iff.mpr ⟨hcontent, List.forall_mem_append.mpr ⟨hchildren, hfurther⟩⟩

theorem throughout_zipWith_adopt {pages : List Page} {families : List (List Page)}
    (hpages : ∀ page ∈ pages, page.Throughout P)
    (hfamilies : ∀ family ∈ families, ∀ child ∈ family, child.Throughout P) :
    ∀ page ∈ List.zipWith adopt pages families, page.Throughout P := by
  induction pages generalizing families with
  | nil => exact List.forall_mem_nil _
  | cons page rest ih =>
      cases families with
      | nil => exact List.forall_mem_nil _
      | cons family families =>
          rw [List.forall_mem_cons] at hpages hfamilies
          rw [List.zipWith_cons_cons, List.forall_mem_cons]
          exact ⟨hpages.1.adopt hfamilies.1, ih hpages.2 hfamilies.2⟩

theorem throughout_reattach {pages : List Page} {families : List (List Page)}
    (hpages : ∀ page ∈ pages, page.Throughout P)
    (hfamilies : ∀ family ∈ families, ∀ child ∈ family, child.Throughout P) :
    ∀ page ∈ reattach pages families, page.Throughout P := by
  unfold reattach
  split
  · exact throughout_zipWith_adopt hpages hfamilies
  · cases pages with
    | nil => exact hpages
    | cons first rest =>
        rw [List.forall_mem_cons] at hpages ⊢
        refine ⟨hpages.1.adopt ?_, hpages.2⟩
        intro child hchild
        obtain ⟨family, hfamily, hchild⟩ := List.mem_flatten.mp hchild
        exact hfamilies family hfamily child hchild

end Page

/-- What a strategy makes of pages has content with a property if theirs has. -/
def Strategy.Keeps (P : Node → Prop) (strategy : Strategy) : Prop :=
  ∀ pages path merged, (∀ page ∈ pages, page.Throughout P) →
    strategy.merge pages path = .ok merged → ∀ page ∈ merged, page.Throughout P

theorem Strategy.keeps_keep (P : Node → Prop) : keep.Keeps P := by
  intro pages path merged hpages hmerged
  obtain rfl := Except.ok.inj hmerged
  exact hpages

namespace Chain

variable {P : Node → Prop} {chain : Chain}

theorem throughout_run (hchain : ∀ strategy ∈ chain, strategy.Keeps P) {path : List String}
    {pages merged : List Page} (hpages : ∀ page ∈ pages, page.Throughout P)
    (h : chain.run path pages = .ok merged) : ∀ page ∈ merged, page.Throughout P :=
  run_invariant (fun strategy hstrategy pages => hchain strategy hstrategy pages path) hpages h

theorem throughout_settle (hchain : ∀ strategy ∈ chain, strategy.Keeps P) {parent : List String}
    {group pages : List Page} (hgroup : ∀ page ∈ group, page.Throughout P)
    (h : chain.settle parent group = .ok pages) : ∀ page ∈ pages, page.Throughout P := by
  rcases group with _ | ⟨first, _ | ⟨second, rest⟩⟩
  · obtain rfl := Except.ok.inj h
    exact hgroup
  · obtain rfl := Except.ok.inj h
    exact hgroup
  · obtain ⟨merged, hmerged, h⟩ := bind_eq_ok.mp h
    obtain rfl := Except.ok.inj h
    have hdetached : ∀ page ∈ (first :: second :: rest).map Page.detached, page.Throughout P :=
      List.forall_mem_map.mpr fun page hpage => (hgroup page hpage).detached
    apply Page.throughout_reattach (throughout_run hchain hdetached hmerged)
    exact List.forall_mem_map.mpr fun page hpage => (Page.throughout_iff.mp (hgroup page hpage)).2

theorem throughout_mergeWithin (hchain : ∀ strategy ∈ chain, strategy.Keeps P) {depth : Nat}
    {above : List String} {page merged : Page} (hpage : page.Throughout P)
    (h : chain.mergeWithin depth above page = .ok merged) : merged.Throughout P := by
  induction depth generalizing above page merged with
  | zero => cases h
  | succ depth ih =>
      obtain ⟨hcontent, hchildren⟩ := Page.throughout_iff.mp hpage
      obtain ⟨hdetached, hmerged⟩ :=
        level_eq_ok ((chain.mergeWithin_succ depth ⟨above, page⟩).symm.trans h)
      have hsame := congrArg (fun page => P page.content) hdetached
      refine Page.throughout_iff.mpr ⟨hsame.mpr hcontent, ?_⟩
      intro child hchild
      obtain ⟨inner, ⟨_, group, hgroup, pages, hpages, hinner⟩, hchild⟩ := hmerged child hchild
      have hmembers : ∀ member ∈ group, member.Throughout P :=
        fun member hmember => hchildren member (mem_of_mem_group hgroup hmember)
      exact ih (throughout_settle hchain hmembers hpages inner.page hinner) hchild

theorem throughout_merge (hchain : ∀ strategy ∈ chain, strategy.Keeps P) {root result : Page}
    (hroot : root.Throughout P) (h : chain.merge root = .ok result) : result.Throughout P :=
  throughout_mergeWithin hchain hroot h

end Chain

end DocPages
