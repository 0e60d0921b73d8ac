import DocPages.Proofs.Merge.Configured

namespace DocPages

variable [PropertyFamily]

/-- Pages that can become one page: all have one key, and several of them are class-like. -/
structure Page.Kin (pages : List Page) : Prop where
  key_eq : ∀ first ∈ pages, ∀ second ∈ pages, first.key = second.key
  classlike : 1 < pages.length → ∀ page ∈ pages, page.isClasslike

namespace Page

theorem Kin.singleton (page : Page) : Kin [page] where
  key_eq first hfirst second hsecond := by
    rw [List.mem_singleton.mp hfirst, List.mem_singleton.mp hsecond]
  classlike hmany := absurd hmany (by simp)

theorem Kin.nil : Kin [] where
  key_eq _ h := absurd h List.not_mem_nil
  classlike hmany := absurd hmany (by simp)

theorem isSome_standIn?_iff {pages : List Page} : (standIn? pages).isSome ↔ pages ≠ [] := by
  rcases pages with _ | ⟨first, _ | ⟨second, rest⟩⟩ <;> simp [standIn?]

theorem exists_standIn? {pages : List Page} (h : pages ≠ []) :
    ∃ page, standIn? pages = some page :=
  Option.isSome_iff_exists.mp (isSome_standIn?_iff.mpr h)

theorem children_standIn? {pages : List Page} {page : Page} (h : standIn? pages = some page) :
    page.children = pages.flatMap children := by
  rcases pages with _ | ⟨first, _ | ⟨second, rest⟩⟩
  · simp [standIn?] at h
  · obtain rfl := Option.some.inj h
    simp
  · obtain rfl := Option.some.inj h
    rfl

theorem Kin.key_standIn? {pages : List Page} (hkin : Kin pages) {page source : Page}
    (h : standIn? pages = some page) (hsource : source ∈ pages) : page.key = source.key := by
  rcases pages with _ | ⟨first, _ | ⟨second, rest⟩⟩
  · simp [standIn?] at h
  · obtain rfl := Option.some.inj h
    rw [List.mem_singleton.mp hsource]
  · obtain rfl := Option.some.inj h
    have hfirst : first.key.1 = .classlike :=
      isClasslike_iff.mp (hkin.classlike (by simp) first List.mem_cons_self)
    rw [← hkin.key_eq first List.mem_cons_self source hsource]
    exact Prod.ext hfirst.symm rfl

end Page

namespace MergeConfig

variable (config : MergeConfig)

theorem not_joins_regroup (group : List Page) : ¬ config.Joins (config.regroup group) := by
  rw [regroup]
  split
  · cases Page.standIn? group with
    | none => exact config.not_joins_of_length_le_one (Nat.zero_le 1)
    | some page => exact config.not_joins_singleton page
  · rename_i h
    exact h

theorem regroup_ne_nil {group : List Page} (h : group ≠ []) : config.regroup group ≠ [] := by
  rw [regroup]
  split
  · obtain ⟨page, hpage⟩ := Page.exists_standIn? h
    rw [hpage, Option.toList_some]
    exact List.cons_ne_nil page []
  · exact h

theorem key_of_mem_regroup {group : List Page} {k : PageKind × String}
    (hgroup : ∀ page ∈ group, page.key = k) {page : Page} (h : page ∈ config.regroup group) :
    page.key = k := by
  rw [regroup] at h
  split at h
  · rename_i hjoins
    have hkin : Page.Kin group := by
      refine ⟨?_, fun _ => hjoins.2.2⟩
      intro first hfirst second hsecond
      exact (hgroup first hfirst).trans (hgroup second hsecond).symm
    obtain ⟨source, hsource⟩ := List.exists_mem_of_length_pos (Nat.lt_of_succ_lt hjoins.2.1)
    rw [hkin.key_standIn? (Option.mem_toList.mp h) hsource, hgroup source hsource]
  · exact hgroup page h

def block (pages : List Page) (k : PageKind × String) : List Page :=
  config.regroup (pages.filter fun page => page.key = k)

theorem arrange_eq_flatMap (pages : List Page) :
    config.arrange pages = (distinctKeys Page.key pages).flatMap (config.block pages) := by
  rw [arrange, groupsBy_eq, List.flatMap_map]
  rfl

variable {config} in
theorem key_of_mem_block {pages : List Page} {k : PageKind × String} {page : Page}
    (h : page ∈ config.block pages k) : page.key = k := by
  apply config.key_of_mem_regroup _ h
  intro member hmember
  exact key_of_mem_filter hmember

theorem block_ne_nil {pages : List Page} {k : PageKind × String}
    (h : k ∈ distinctKeys Page.key pages) : config.block pages k ≠ [] := by
  apply config.regroup_ne_nil
  intro hnone
  exact filter_key_eq_nil_iff.mp hnone h

theorem distinctKeys_arrange (pages : List Page) :
    distinctKeys Page.key (config.arrange pages) = distinctKeys Page.key pages := by
  rw [arrange_eq_flatMap]
  apply distinctKeys_flatMap_blocks (nodup_distinctKeys Page.key pages)
  · intro k _ page hpage
    exact key_of_mem_block hpage
  · intro k hk
    exact config.block_ne_nil hk

theorem groupsBy_arrange (pages : List Page) :
    groupsBy Page.key (config.arrange pages) =
      (groupsBy Page.key pages).map config.regroup := by
  rw [arrange_eq_flatMap, groupsBy_flatMap_blocks (nodup_distinctKeys Page.key pages)
    (fun _ _ _ => key_of_mem_block) fun _ => config.block_ne_nil, groupsBy_eq, List.map_map]
  rfl

theorem contiguous_arrange (pages : List Page) :
    Contiguous ((config.arrange pages).map Page.key) := by
  rw [arrange_eq_flatMap]
  exact contiguous_map_flatMap_blocks (nodup_distinctKeys Page.key pages)
    fun _ _ _ => key_of_mem_block

/-- An arranged list stays as it is, also after changes to its pages that leave their keys. -/
theorem arrange_map_arrange {f : Page → Page} (hf : ∀ page, (f page).key = page.key)
    (pages : List Page) :
    config.arrange ((config.arrange pages).map f) = (config.arrange pages).map f := by
  have hkey : Page.key ∘ f = Page.key := funext hf
  have hgroups : groupsBy Page.key ((config.arrange pages).map f) =
      ((groupsBy Page.key pages).map config.regroup).map (List.map f) := by
    rw [groupsBy_map, hkey, groupsBy_arrange]
  have hregroup (group : List Page) :
      config.regroup ((config.regroup group).map f) = (config.regroup group).map f := by
    apply config.regroup_of_not_joins
    rw [config.joins_map_iff hf]
    exact config.not_joins_regroup group
  calc
    config.arrange ((config.arrange pages).map f) =
        (groupsBy Page.key pages).flatMap fun group =>
          config.regroup ((config.regroup group).map f) := by
      rw [arrange, hgroups, List.flatMap_map, List.flatMap_map]
    _ = (groupsBy Page.key pages).flatMap fun group => (config.regroup group).map f :=
      List.flatMap_congr fun group _ => hregroup group
    _ = (config.arrange pages).map f := by rw [arrange, List.map_flatMap]

end MergeConfig

end DocPages
