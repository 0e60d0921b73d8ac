import DocPages.Proofs.Merge.Contract
import DocPages.PropertyKind

namespace DocPages

section

variable [PropertyFamily]

namespace Page

theorem map_detached_zipWith_adopt {pages : List Page} {families : List (List Page)}
    (h : pages.length = families.length) :
    (List.zipWith adopt pages families).map detached = pages.map detached := by
  induction pages generalizing families with
  | nil => rfl
  | cons page rest ih =>
      cases families with
      | nil => cases h
      | cons family families =>
          rw [List.zipWith_cons_cons, List.map_cons, List.map_cons, ih (Nat.succ.inj h)]
          rfl

theorem map_children_zipWith_adopt {pages : List Page} {families : List (List Page)}
    (h : pages.length = families.length) (hchildless : ∀ page ∈ pages, page.children = []) :
    (List.zipWith adopt pages families).map children = families := by
  induction pages generalizing families with
  | nil => exact (List.eq_nil_of_length_eq_zero h.symm).symm
  | cons page rest ih =>
      cases families with
      | nil => cases h
      | cons family families =>
          rw [List.forall_mem_cons] at hchildless
          have hadopted : (page.adopt family).children = family := by
            rw [adopt, hchildless.1, List.nil_append]
          rw [List.zipWith_cons_cons, List.map_cons, hadopted,
            ih (Nat.succ.inj h) hchildless.2]

theorem map_detached_reattach (pages : List Page) (families : List (List Page)) :
    (reattach pages families).map detached = pages.map detached := by
  unfold reattach
  split
  · rename_i hlength
    exact map_detached_zipWith_adopt hlength
  · cases pages with
    | nil => rfl
    | cons first rest => rfl

theorem map_children_reattach {pages : List Page} {families : List (List Page)}
    (h : pages.length = families.length) (hchildless : ∀ page ∈ pages, page.children = []) :
    (reattach pages families).map children = families := by
  unfold reattach
  rw [if_pos h, map_children_zipWith_adopt h hchildless]

theorem flatMap_children_reattach {pages : List Page} (families : List (List Page))
    (hne : pages ≠ []) (hchildless : ∀ page ∈ pages, page.children = []) :
    (reattach pages families).flatMap children = families.flatten := by
  rcases Decidable.em (pages.length = families.length) with hlength | hlength
  · rw [List.flatMap_def, map_children_reattach hlength hchildless]
  · cases pages with
    | nil => exact absurd rfl hne
    | cons first rest =>
        rw [List.forall_mem_cons] at hchildless
        have hfirst : (first.adopt families.flatten).children = families.flatten := by
          rw [adopt, hchildless.1, List.nil_append]
        have hrest : rest.flatMap children = [] := List.flatMap_eq_nil_iff.mpr hchildless.2
        unfold reattach
        rw [if_neg hlength, List.flatMap_cons, hfirst, hrest, List.append_nil]

theorem eq_of_map_detached_of_map_children {pages others : List Page}
    (hdetached : pages.map detached = others.map detached)
    (hchildren : pages.map children = others.map children) : pages = others := by
  rw [← reattach_map_detached pages, hdetached, hchildren, reattach_map_detached]

theorem childless_map_detached (pages : List Page) :
    ∀ page ∈ pages.map detached, page.children = [] :=
  List.forall_mem_map.mpr fun _ _ => rfl

theorem detached_of_childless {page : Page} (h : page.children = []) : page.detached = page :=
  with_children_eq h.symm

theorem map_detached_of_childless {pages : List Page}
    (h : ∀ page ∈ pages, page.children = []) : pages.map detached = pages := by
  rw [List.map_congr_left fun page hpage => detached_of_childless (h page hpage), List.map_id']

/-- Two pages of one class, each with a member of its own. -/
def sameClass : List Page :=
  let page (name : String) (kind : PageKind) (resource : String) (children : List Page) : Page :=
    { name, kind, dris := ∅, content := .group ⟨[], {}⟩, resources := [resource], children }
  [page "Foo" .classlike "jvm.html" [page "a" .member "a.html" []],
    page "Foo" .classlike "js.html" [page "b" .member "b.html" []]]

end Page

namespace Strategy

theorem keepsChildless_double : double.KeepsChildless := by
  intro pages path merged hpages hmerge
  obtain rfl := Except.ok.inj hmerge
  exact List.forall_mem_append.mpr ⟨hpages, hpages⟩

end Strategy

namespace Chain

/-- What every strategy of a chain keeps, a run keeps. -/
theorem run_invariant {P : List Page → Prop} {chain : Chain} {path : List String}
    (hchain : ∀ strategy ∈ chain, ∀ pages merged, P pages →
      strategy.merge pages path = .ok merged → P merged)
    {pages merged : List Page} (hpages : P pages) (h : chain.run path pages = .ok merged) :
    P merged := by
  induction chain generalizing pages with
  | nil =>
      obtain rfl := Except.ok.inj h
      exact hpages
  | cons strategy rest ih =>
      rw [List.forall_mem_cons] at hchain
      rw [run] at h
      split at h
      · obtain rfl := Except.ok.inj h
        exact hpages
      · split at h
        · obtain ⟨between, hbetween, h⟩ := bind_eq_ok.mp h
          exact ih hchain.2 (hchain.1 pages between hpages hbetween) h
        · exact ih hchain.2 hpages h

theorem childless_run {chain : Chain} (hchain : ∀ strategy ∈ chain, strategy.KeepsChildless)
    {path : List String} {pages merged : List Page}
    (hpages : ∀ page ∈ pages, page.children = []) (h : chain.run path pages = .ok merged) :
    ∀ page ∈ merged, page.children = [] :=
  run_invariant (fun strategy hstrategy pages => hchain strategy hstrategy pages path) hpages h

theorem mergeGroup_eq_ok {chain : Chain} {path : List String} {pages merged : List Page}
    (h : chain.run path (pages.map Page.detached) = .ok merged) :
    chain.mergeGroup path pages = .ok (Page.reattach merged (pages.map Page.children)) := by
  rw [mergeGroup, h]
  rfl

/-- Under a chain that only changes the order of the pages, the children do not change places. So
the pages keep their own children exactly if the pages in each place had the same children. -/
theorem mergeGroup_rearranged {chain : Chain} {path : List String} {pages arranged : List Page}
    (harranged : arranged.Perm pages)
    (h : chain.run path (pages.map Page.detached) = .ok (arranged.map Page.detached)) :
    ∃ result, chain.mergeGroup path pages = .ok result ∧
      result.map Page.detached = arranged.map Page.detached ∧
      result.map Page.children = pages.map Page.children ∧
      (result = arranged ↔ arranged.map Page.children = pages.map Page.children) := by
  have hlength : (arranged.map Page.detached).length = (pages.map Page.children).length := by
    rw [List.length_map, List.length_map, harranged.length_eq]
  have hdetached : (Page.reattach (arranged.map Page.detached)
      (pages.map Page.children)).map Page.detached = arranged.map Page.detached := by
    rw [Page.map_detached_reattach, Page.map_detached_of_childless]
    exact Page.childless_map_detached arranged
  have hchildren := Page.map_children_reattach hlength (Page.childless_map_detached arranged)
  refine ⟨_, mergeGroup_eq_ok h, hdetached, hchildren, ?_⟩
  constructor
  · intro hresult
    rw [← hchildren, hresult]
  · intro hsame
    exact Page.eq_of_map_detached_of_map_children hdetached (hchildren.trans hsame.symm)

end Chain

end

namespace Chain

theorem mergeGroup_rearranged_reverse :
    Page.sameClass.reverse.Perm Page.sameClass ∧
      run ["root", "Foo"] [.reverse] (Page.sameClass.map Page.detached) =
        .ok (Page.sameClass.reverse.map Page.detached) ∧
      ∃ result, mergeGroup [.reverse] ["root", "Foo"] Page.sameClass = .ok result ∧
        result.map Page.detached = Page.sameClass.reverse.map Page.detached ∧
        result.map Page.children = Page.sameClass.map Page.children ∧
        (result = Page.sameClass.reverse ↔
          Page.sameClass.reverse.map Page.children = Page.sameClass.map Page.children) :=
  have hreverse := List.reverse_perm Page.sameClass
  ⟨hreverse, rfl, mergeGroup_rearranged hreverse rfl⟩

/-- Pages that come out in another order do not always come out with their own children. -/
theorem not_own_children_reversed :
    ¬ ∀ (chain : Chain) (path : List String) (pages arranged : List Page),
      arranged.Perm pages →
      chain.run path (pages.map Page.detached) = .ok (arranged.map Page.detached) →
      ∃ own, own.Perm pages ∧ chain.mergeGroup path pages = .ok own := by
  intro h
  obtain ⟨own, hown, hmerged⟩ := h [.reverse] ["root", "Foo"] Page.sameClass
    Page.sameClass.reverse (List.reverse_perm _) rfl
  obtain rfl := Except.ok.inj hmerged
  have hmembers := hown.map fun page => (page.resources, page.children.map Page.name)
  exact absurd hmembers (by decide)

theorem children_mergeGroup [PropertyFamily] {chain : Chain}
    (hchain : ∀ strategy ∈ chain, strategy.KeepsChildless) {path : List String}
    {pages merged : List Page} (h : chain.run path (pages.map Page.detached) = .ok merged)
    (hne : merged ≠ []) :
    ∃ result, chain.mergeGroup path pages = .ok result ∧ result.map Page.detached = merged ∧
      result.flatMap Page.children = pages.flatMap Page.children := by
  have hchildless := childless_run hchain (Page.childless_map_detached pages) h
  refine ⟨_, mergeGroup_eq_ok h, ?_, ?_⟩
  · rw [Page.map_detached_reattach, Page.map_detached_of_childless hchildless]
  · rw [Page.flatMap_children_reattach _ hne hchildless, List.flatMap_def]

theorem children_mergeGroup_reverse_double :
    (∀ strategy ∈ [Strategy.reverse, .double], strategy.KeepsChildless) ∧
      run ["root", "Foo"] [.reverse, .double] (Page.sameClass.map Page.detached) =
        .ok ((Page.sameClass.reverse ++ Page.sameClass.reverse).map Page.detached) ∧
      ∃ result, mergeGroup [.reverse, .double] ["root", "Foo"] Page.sameClass = .ok result ∧
        result.map Page.detached =
          (Page.sameClass.reverse ++ Page.sameClass.reverse).map Page.detached ∧
        result.flatMap Page.children = Page.sameClass.flatMap Page.children := by
  have hkeeps : ∀ strategy ∈ [Strategy.reverse, .double], strategy.KeepsChildless := by
    simp only [List.forall_mem_cons, List.not_mem_nil, false_imp_iff, implies_true, and_true]
    exact ⟨Strategy.keepsChildless_reverse, Strategy.keepsChildless_double⟩
  exact ⟨hkeeps, rfl, children_mergeGroup hkeeps rfl (List.cons_ne_nil _ _)⟩

end Chain

end DocPages
