import DocPages.Merge.Stock
import DocPages.Proofs.Grouping
import DocPages.Proofs.PageTree
import DocPages.Proofs.Traversal
import DocPages.PropertyKind

namespace DocPages

section

variable [PropertyFamily]

/-- The siblings of one key, and the names on the way down to them. -/
structure Visit where
  path : List String
  group : List Page

def Visit.clashes (visit : Visit) : Bool := 1 < visit.group.length

namespace Page

mutual

/-- The groups of siblings below a page in the order of a walk that takes keys as they first occur
and, after each group, goes down into its pages. `above` are the names of the pages on the way. -/
def visits (above : List String) : Page → List Visit
  | ⟨name, _, _, _, _, _, children⟩ =>
      (distinctKeys key children).flatMap fun k =>
        ⟨above ++ [name] ++ [k.2], children.filter fun child => child.key = k⟩ ::
          ((visitsBelow (above ++ [name]) children).filter fun below => below.1.key = k).flatMap
            Prod.snd

def visitsBelow (above : List String) : List Page → List (Page × List Visit)
  | [] => []
  | page :: rest => (page, page.visits above) :: visitsBelow above rest

end

theorem visitsBelow_eq_map (above : List String) (pages : List Page) :
    visitsBelow above pages = pages.map fun page => (page, page.visits above) := by
  induction pages with
  | nil => rfl
  | cons page rest ih => rw [visitsBelow, ih, List.map_cons]

/-- What the walk meets of one key: the children of that key together, and then what is below
them. -/
def visitsOfKey (path : List String) (children : List Page) (k : PageKind × String) : List Visit :=
  ⟨path ++ [k.2], children.filter fun child => child.key = k⟩ ::
    (children.filter fun child => child.key = k).flatMap (visits path)

theorem visits_eq (above : List String) (page : Page) :
    page.visits above = (distinctKeys key page.children).flatMap
      (visitsOfKey (above ++ [page.name]) page.children) := by
  cases page
  simp only [visits, visitsBelow_eq_map, List.filter_map, List.flatMap_map]
  rfl

theorem mem_visits {above : List String} {page : Page} {visit : Visit} :
    visit ∈ page.visits above ↔
      (∃ k ∈ distinctKeys key page.children,
        visit = ⟨above ++ [page.name] ++ [k.2],
          page.children.filter fun child => child.key = k⟩) ∨
        ∃ child ∈ page.children, visit ∈ child.visits (above ++ [page.name]) := by
  rw [visits_eq, List.mem_flatMap]
  constructor
  · rintro ⟨k, hk, hvisit⟩
    rcases List.mem_cons.mp hvisit with rfl | hvisit
    · exact Or.inl ⟨k, hk, rfl⟩
    · obtain ⟨child, hchild, hvisit⟩ := List.mem_flatMap.mp hvisit
      exact Or.inr ⟨child, List.mem_of_mem_filter hchild, hvisit⟩
  · rintro (⟨k, hk, rfl⟩ | ⟨child, hchild, hvisit⟩)
    · exact ⟨k, hk, List.mem_cons_self⟩
    · refine ⟨child.key, mem_distinctKeys.mpr ⟨child, hchild, rfl⟩, ?_⟩
      apply List.mem_cons_of_mem
      exact List.mem_flatMap.mpr ⟨child, List.mem_filter.mpr ⟨hchild, by simp⟩, hvisit⟩

/-- Whether no page of a tree has two children of one kind and name. -/
def ClashFree (root : Page) : Prop :=
  ∀ address page, root.at? address = some page → (page.children.map key).Nodup

theorem clashFree_iff {page : Page} :
    page.ClashFree ↔ (page.children.map key).Nodup ∧ ∀ child ∈ page.children, child.ClashFree :=
  forall_at?_iff

theorem clashFree_iff_find? {above : List String} {page : Page} :
    page.ClashFree ↔ (page.visits above).find? Visit.clashes = none := by
  rw [List.find?_eq_none]
  induction page using Page.induction generalizing above with
  | step page ih =>
      rw [clashFree_iff, nodup_map_key_iff]
      constructor
      · rintro ⟨hkeys, hchildren⟩ visit hvisit
        rcases mem_visits.mp hvisit with ⟨k, hk, rfl⟩ | ⟨child, hchild, hvisit⟩
        · simpa [Visit.clashes] using hkeys k hk
        · exact (ih child hchild).mp (hchildren child hchild) visit hvisit
      · intro h
        refine ⟨?_, ?_⟩
        · intro k hk
          have hvisit := h _ (mem_visits.mpr (Or.inl ⟨k, hk, rfl⟩))
          simpa [Visit.clashes] using hvisit
        · intro child hchild
          apply (ih child hchild).mpr
          intro visit hvisit
          exact h visit (mem_visits.mpr (Or.inr ⟨child, hchild, hvisit⟩))

instance (page : Page) : Decidable page.ClashFree :=
  decidable_of_iff ((page.visits []).find? Visit.clashes = none) clashFree_iff_find?.symm

end Page

/-- Whether the strategy accepts every group and refuses to merge it, telling its path. -/
structure Strategy.Refuses (report : List String → String) (strategy : Strategy) : Prop where
  accepts : ∀ pages, 1 < pages.length → strategy.accepts pages = true
  merge : ∀ pages path, 1 < pages.length →
    strategy.merge pages path = .error (.empty (report path))

theorem Strategy.refuses_refuse : refuse.Refuses joinPath where
  accepts pages hmany := by
    cases pages with
    | nil => cases hmany
    | cons first rest => rfl
  merge _ _ _ := rfl

namespace Chain

variable {report : List String → String} {chain : Chain}

/-- Whether the first strategy of the chain refuses every group. -/
def Refuses (report : List String → String) (chain : Chain) : Prop :=
  ∃ strategy ∈ chain.head?, strategy.Refuses report

theorem Refuses.run (h : chain.Refuses report) {pages : List Page} (hmany : 1 < pages.length)
    (path : List String) : chain.run path pages = .error (.empty (report path)) := by
  obtain ⟨strategy, hhead, hstrategy⟩ := h
  obtain ⟨rest, rfl⟩ := List.head?_eq_some_iff.mp hhead
  rw [Chain.run, if_neg (Nat.not_le_of_lt hmany), if_pos (hstrategy.accepts pages hmany),
    hstrategy.merge pages path hmany]
  rfl

/-- What is left of a walk that ends at the first clash and tells its path. -/
def endAtClash {β : Type} (report : List String → String) (unmerged : β) (visits : List Visit) :
    Except Interruption β :=
  (visits.find? Visit.clashes).elim (.ok unmerged) fun visit =>
    .error (.refused (.empty (report visit.path)))

theorem mapM_endAtClash {α β : Type} {f : α → Except Interruption β} {g : α → β}
    {walk : α → List Visit} {l : List α}
    (h : ∀ a ∈ l, f a = endAtClash report (g a) (walk a)) :
    l.mapM f = endAtClash report (l.map g) (l.flatMap walk) := by
  rw [endAtClash, List.find?_flatMap]
  exact mapM_eq_findSome? h

theorem settle_then_mergeWithin {depth : Nat} {path : List String} {children : List Page}
    {k : PageKind × String} (hk : k ∈ distinctKeys Page.key children)
    (hbelow : ∀ child ∈ children, chain.mergeWithin depth path child =
      endAtClash report child (child.visits path))
    (hrefuses : 1 < (children.filter fun child => child.key = k).length → chain.Refuses report) :
    (do
      let pages ← settled (chain.settle path (children.filter fun child => child.key = k))
      pages.mapM (chain.mergeWithin depth path)) =
      endAtClash report (children.filter fun child => child.key = k)
        (Page.visitsOfKey path children k) := by
  have hmember : ∀ page ∈ children.filter (fun child => child.key = k),
      page.name = k.2 ∧ chain.mergeWithin depth path page =
        endAtClash report page (page.visits path) := by
    intro page hpage
    exact ⟨congrArg Prod.snd (key_of_mem_filter hpage), hbelow page (List.mem_of_mem_filter hpage)⟩
  have hne : children.filter (fun child => child.key = k) ≠ [] := by
    intro hnone
    exact filter_key_eq_nil_iff.mp hnone hk
  unfold Page.visitsOfKey
  generalize children.filter (fun child => child.key = k) = group at *
  rcases group with _ | ⟨first, _ | ⟨second, rest⟩⟩
  · exact absurd rfl hne
  · have hfirst := (hmember first List.mem_cons_self).2
    have hquiet : ¬ Visit.clashes ⟨path ++ [k.2], [first]⟩ := by simp [Visit.clashes]
    have hsettled : settled (chain.settle path [first]) = .ok [first] := rfl
    rw [hsettled, endAtClash, List.find?_cons_of_neg hquiet, List.flatMap_singleton]
    change [first].mapM (chain.mergeWithin depth path) = _
    rw [List.mapM_cons, hfirst, endAtClash]
    cases (first.visits path).find? Visit.clashes with
    | none => rfl
    | some visit => rfl
  · have hname := (hmember first List.mem_cons_self).1
    have hclash : Visit.clashes ⟨path ++ [k.2], first :: second :: rest⟩ := by simp [Visit.clashes]
    have hrun : chain.run (path ++ [k.2]) ((first :: second :: rest).map Page.detached) =
        .error (.empty (report (path ++ [k.2]))) :=
      (hrefuses (by simp)).run (by simp) _
    have hsettled : settled (chain.settle path (first :: second :: rest)) =
        .error (.refused (.empty (report (path ++ [k.2])))) := by
      rw [settle, hname, mergeGroup, hrun]
      rfl
    rw [hsettled, endAtClash, List.find?_cons_of_pos hclash]
    rfl

/-- Merging leaves a tree as it is up to the first clash, at which it ends. -/
theorem mergeWithin_eq_endAtClash {depth : Nat} {above : List String} {page : Page}
    (hheight : page.height ≤ depth) (h : page.ClashFree ∨ chain.Refuses report) :
    chain.mergeWithin depth above page = endAtClash report page (page.visits above) := by
  induction depth generalizing above page with
  | zero => exact absurd hheight page.not_height_le_zero
  | succ depth ih =>
      have hbelow : ∀ child ∈ page.children,
          chain.mergeWithin depth (above ++ [page.name]) child =
            endAtClash report child (child.visits (above ++ [page.name])) := by
        intro child hchild
        apply ih
        · exact Nat.le_trans (Page.height_le_heightAll hchild)
            (Page.heightAll_children_le hheight)
        · exact h.imp_left fun hfree => (Page.clashFree_iff.mp hfree).2 child hchild
      have hrefuses : ∀ k ∈ distinctKeys Page.key page.children,
          1 < (page.children.filter fun child => child.key = k).length → chain.Refuses report := by
        intro k hk hmany
        apply h.resolve_left
        intro hfree
        exact Nat.not_lt.mpr (nodup_map_key_iff.mp (Page.clashFree_iff.mp hfree).1 k hk) hmany
      have hfamilies := mapM_endAtClash fun k hk =>
        settle_then_mergeWithin hk hbelow (hrefuses k hk)
      rw [← Page.visits_eq] at hfamilies
      rw [mergeWithin, groupsBy_eq]
      simp only [List.mapM_map, Function.comp_def, hfamilies]
      rw [endAtClash, endAtClash]
      cases hfind : (page.visits above).find? Visit.clashes with
      | some visit => rfl
      | none =>
          have hfree := Page.clashFree_iff.mp (Page.clashFree_iff_find?.mpr hfind)
          have hchildren := flatMap_filter_of_nodup hfree.1
          rw [List.flatMap_def] at hchildren
          exact congrArg Except.ok (Page.with_children_eq hchildren)

/-- A tree without clashes comes out as it is, whatever the chain. In a tree with a clash, a chain
whose first strategy refuses every group tells the path of the first clash of a walk. -/
theorem merge_first_clash (root : Page) :
    (root.ClashFree → ∀ chain : Chain, chain.merge root = .ok root) ∧
      (¬ root.ClashFree → ∀ (report : List String → String) (chain : Chain),
        chain.Refuses report → ∃ visit, (root.visits []).find? Visit.clashes = some visit ∧
          chain.merge root = .error (.refused (.empty (report visit.path)))) := by
  constructor
  · intro hfree chain
    have hmerge : chain.merge root = endAtClash joinPath root (root.visits []) :=
      mergeWithin_eq_endAtClash (Nat.le_refl _) (Or.inl hfree)
    rw [hmerge, endAtClash, Page.clashFree_iff_find?.mp hfree]
    rfl
  · intro hclash report chain hrefuses
    have hmerge : chain.merge root = endAtClash report root (root.visits []) :=
      mergeWithin_eq_endAtClash (Nat.le_refl _) (Or.inr hrefuses)
    obtain ⟨visit, hvisit⟩ :=
      Option.ne_none_iff_exists'.mp (mt Page.clashFree_iff_find?.mpr hclash)
    refine ⟨visit, hvisit, ?_⟩
    rw [hmerge, endAtClash, hvisit]
    rfl

end Chain

end

namespace Chain

theorem merge_first_clash_nested :
    let page (name : String) (kind : PageKind) (children : List Page) : Page :=
      { name, kind, dris := ∅, content := .group ⟨[], {}⟩, children }
    let run := page "run" .member []
    let quiet := page "a" .package [run, page "run" .classlike []]
    let root := page "root" .module
      [quiet, page "b" .package [run, quiet, run], page "c" .package [], page "c" .package []]
    quiet.ClashFree ∧ merge [.refuse] quiet = .ok quiet ∧
      ¬ root.ClashFree ∧ Refuses joinPath [.refuse, .sameClassName] ∧
      merge [.refuse, .sameClassName] root = .error (.refused (.empty "root/b/run")) := by
  intro page run quiet root
  have hquiet : quiet.ClashFree := by decide
  have hclash : ¬ root.ClashFree := by decide
  have hrefuses : Refuses joinPath [.refuse, .sameClassName] :=
    ⟨.refuse, rfl, Strategy.refuses_refuse⟩
  obtain ⟨visit, hvisit, hmerge⟩ := (merge_first_clash root).2 hclash joinPath _ hrefuses
  have hpath : some ["root", "b", "run"] = some visit.path := congrArg (Option.map Visit.path) hvisit
  rw [← Option.some.inj hpath] at hmerge
  exact ⟨hquiet, (merge_first_clash quiet).1 hquiet [.refuse], hclash, hrefuses, hmerge⟩

end Chain

end DocPages
