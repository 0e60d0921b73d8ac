import DocPages.Proofs.Merge.Provenance
import DocPages.PropertyKind

namespace DocPages

section

variable [PropertyFamily]

/-- The form of the children of a page whose sources have the children `originals`. -/
structure Page.Arranged (children originals : List Page) : Prop where
  classlike_names : ((children.filter isClasslike).map name).Nodup
  contiguous : Contiguous (children.map key)
  order : distinctKeys key children = distinctKeys key originals

theorem Page.Arranged.map {children originals : List Page} (h : Arranged children originals)
    {f : Page → Page} (hf : ∀ page, (f page).key = page.key) :
    Arranged (children.map f) originals := by
  have hkeys : (children.map f).map key = children.map key := by
    rw [List.map_map, (funext hf : key ∘ f = key)]
  have hclasslike : isClasslike ∘ f = isClasslike := by
    funext page
    rw [Bool.eq_iff_iff, Function.comp_apply, isClasslike_iff, isClasslike_iff, hf]
  have hname : name ∘ f = name := by
    funext page
    exact congrArg Prod.snd (hf page)
  refine ⟨?_, ?_, ?_⟩
  · rw [List.filter_map, List.map_map, hclasslike, hname]
    exact h.classlike_names
  · rw [hkeys]
    exact h.contiguous
  · rw [distinctKeys, hkeys]
    exact h.order

namespace MergeConfig

variable (config : MergeConfig)

theorem exists_block_eq_singleton (h : .sameClassName ∈ config.strategies) {pages : List Page}
    {k : PageKind × String} (hk : k ∈ distinctKeys Page.key pages) (hclasslike : k.1 = .classlike) :
    ∃ page, config.block pages k = [page] := by
  obtain ⟨page, hpage, hkey⟩ := mem_distinctKeys.mp hk
  have hmem : page ∈ pages.filter fun page => page.key = k :=
    List.mem_filter.mpr ⟨hpage, decide_eq_true hkey⟩
  have hall : ∀ member ∈ pages.filter (fun page => page.key = k), member.isClasslike := by
    intro member hmember
    rw [Page.isClasslike_iff, key_of_mem_filter hmember, hclasslike]
  rw [block, regroup]
  split
  · obtain ⟨joined, hjoined⟩ := Page.exists_standIn? (List.ne_nil_of_mem hmem)
    refine ⟨joined, ?_⟩
    rw [hjoined, Option.toList_some]
  · rename_i hjoins
    have hlength : (pages.filter fun page => page.key = k).length = 1 := by
      have hpos := List.length_pos_of_mem hmem
      have hle : ¬ 1 < (pages.filter fun page => page.key = k).length := by
        intro hmany
        exact hjoins ⟨h, hmany, hall⟩
      omega
    exact List.length_eq_one_iff.mp hlength

theorem map_key_filter_isClasslike (h : .sameClassName ∈ config.strategies) {pages : List Page}
    {keys : List (PageKind × String)} (hkeys : ∀ k ∈ keys, k ∈ distinctKeys Page.key pages) :
    ((keys.flatMap (config.block pages)).filter Page.isClasslike).map Page.key =
      keys.filter fun k => k.1 = .classlike := by
  induction keys with
  | nil => rfl
  | cons k rest ih =>
      have htail := ih fun j hj => hkeys j (List.mem_cons_of_mem k hj)
      rw [List.flatMap_cons, List.filter_append, List.map_append, htail]
      rcases Decidable.em (k.1 = .classlike) with hkind | hkind
      · obtain ⟨page, hpage⟩ :=
          config.exists_block_eq_singleton h (hkeys k List.mem_cons_self) hkind
        have hkey : page.key = k := key_of_mem_block (hpage ▸ List.mem_singleton_self page)
        have hclasslike : page.isClasslike := by
          rw [Page.isClasslike_iff, hkey, hkind]
        simp [hpage, hclasslike, hkey, hkind]
      · have hnone : (config.block pages k).filter Page.isClasslike = [] := by
          apply List.filter_eq_nil_iff.mpr
          intro page hpage hclasslike
          rw [Page.isClasslike_iff, key_of_mem_block hpage] at hclasslike
          exact hkind hclasslike
        simp [hnone, hkind]

theorem arranged_arrange (h : .sameClassName ∈ config.strategies) (pages : List Page) :
    Page.Arranged (config.arrange pages) pages := by
  refine ⟨?_, config.contiguous_arrange pages, config.distinctKeys_arrange pages⟩
  have hkeys : ((config.arrange pages).filter Page.isClasslike).map Page.key =
      (distinctKeys Page.key pages).filter fun k => k.1 = .classlike := by
    rw [arrange_eq_flatMap]
    exact config.map_key_filter_isClasslike h fun _ hk => hk
  have hnames : ((config.arrange pages).filter Page.isClasslike).map Page.name =
      ((distinctKeys Page.key pages).filter fun k => k.1 = .classlike).map Prod.snd := by
    rw [← hkeys, List.map_map]
    rfl
  rw [hnames]
  refine ((nodup_distinctKeys Page.key pages).filter _).map_on ?_
  rintro ⟨kind, name⟩ hfirst ⟨otherKind, otherName⟩ hsecond rfl
  have hkind := of_decide_eq_true (List.mem_filter.mp hfirst).2
  have hotherKind := of_decide_eq_true (List.mem_filter.mp hsecond).2
  exact congrArg (fun kind => (kind, name)) (hkind.trans hotherKind.symm)

theorem exists_children_merged {root : Page} {address : Address} {page : Page}
    (h : (config.merged root).at? address = some page) :
    ∃ depth, page.children = (config.arrange ((config.sourcesAt root address).flatMap
      fun source => source.page.children)).map (config.mergedWithin depth) := by
  rw [at?_merged] at h
  obtain ⟨standIn, hstandIn, rfl⟩ := Option.map_eq_some_iff.mp h
  have hheight := config.height_standIn?_sourcesAt hstandIn
  have hchildren := Page.children_standIn? hstandIn
  rw [List.flatMap_map] at hchildren
  cases hdepth : root.height - address.length with
  | zero =>
      rw [Page.height_eq] at hheight
      omega
  | succ depth =>
      refine ⟨depth, ?_⟩
      rw [mergedWithin, hchildren]

end MergeConfig

/-- With a chain that joins class-like pages, all children in the merged tree are arranged. -/
theorem Chain.merge_arranged (config : MergeConfig) (h : .sameClassName ∈ config.strategies)
    (root : Page) :
    ∃ result, (ofConfig config).merge root = .ok result ∧
      ∃ sources, Provenance root result sources ∧
        ∀ address page, result.at? address = some page →
          Page.Arranged page.children
            ((sources address).flatMap fun source => source.page.children) := by
  refine ⟨config.merged root, merge_ofConfig config root, config.sourcesAt root,
    config.provenance_merged root, ?_⟩
  intro address page hpage
  obtain ⟨depth, hchildren⟩ := config.exists_children_merged hpage
  rw [hchildren]
  exact (config.arranged_arrange h _).map (config.key_mergedWithin depth)

/-- A tree with two pages of one class, each with a page of its own for an inner class. -/
def Page.twoPlatforms : Page :=
  let page (name : String) (kind : PageKind) (children : List Page) : Page :=
    { name, kind, dris := ∅, content := .group ⟨[], {}⟩, children }
  let outer := page "Outer" .classlike [page "Inner" .classlike []]
  page "root" .module [outer, page "run" .member [], outer]

end

theorem Chain.merge_arranged_twoPlatforms :
    .sameClassName ∈ (⟨[.default, .sameClassName]⟩ : MergeConfig).strategies ∧
      ∃ result, (ofConfig ⟨[.default, .sameClassName]⟩).merge Page.twoPlatforms = .ok result ∧
        ∃ sources, Provenance Page.twoPlatforms result sources ∧
          ∀ address page, result.at? address = some page →
            Page.Arranged page.children
              ((sources address).flatMap fun source => source.page.children) :=
  ⟨by decide, merge_arranged ⟨[.default, .sameClassName]⟩ (by decide) Page.twoPlatforms⟩

end DocPages
