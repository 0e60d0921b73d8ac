import DocPages.Proofs.Merge.Sources

/-!
Merging loses, repeats and misplaces no page.

`Provenance` says what it means that a tree accounts for all pages of another, whatever procedure
made it. Every configured chain gives such a tree, and the sources of its pages are the ones that
`MergeConfig.sourcesAt` computes.
-/

namespace DocPages

theorem index_eq_of_nodup_flatten {α : Type} {lists : List (List α)} (h : lists.flatten.Nodup)
    {i j : Nat} {first second : List α} (hi : lists[i]? = some first)
    (hj : lists[j]? = some second) {a : α} (hfirst : a ∈ first) (hsecond : a ∈ second) :
    i = j := by
  have hdisjoint := (List.nodup_flatten.mp h).2
  obtain ⟨hilt, rfl⟩ := List.getElem?_eq_some_iff.mp hi
  obtain ⟨hjlt, rfl⟩ := List.getElem?_eq_some_iff.mp hj
  rcases Nat.lt_trichotomy i j with hij | hij | hij
  · exact (List.pairwise_iff_getElem.mp hdisjoint i j hilt hjlt hij hfirst hsecond).elim
  · exact hij
  · exact (List.pairwise_iff_getElem.mp hdisjoint j i hjlt hilt hij hsecond hfirst).elim

theorem filter_flatMap_of_agree {α β : Type} {l : List α} {f : α → List β} {p : α → Bool}
    {q : β → Bool} (h : ∀ a ∈ l, ∀ b ∈ f a, q b = p a) :
    (l.filter p).flatMap f = (l.flatMap f).filter q := by
  induction l with
  | nil => rfl
  | cons a rest ih =>
      have hrest := ih fun b hb => h b (List.mem_cons_of_mem a hb)
      have ha := h a List.mem_cons_self
      rw [List.flatMap_cons, List.filter_append, ← hrest]
      cases hp : p a with
      | true =>
          have hall : (f a).filter q = f a := by
            apply List.filter_eq_self.mpr
            intro b hb
            exact (ha b hb).trans hp
          rw [List.filter_cons_of_pos hp, List.flatMap_cons, hall]
      | false =>
          have hnone : (f a).filter q = [] := by
            apply List.filter_eq_nil_iff.mpr
            intro b hb
            simp [ha b hb, hp]
          rw [List.filter_cons_of_neg (by simp [hp]), hnone, List.nil_append]

variable [PropertyFamily]

/-- Whether a page, its children aside, is what becomes of some pages: a single page stays as it
is, and several are joined. -/
def Page.StandsFor (page : Page) : List Page → Prop
  | [] => False
  | [source] => page.detached = source.detached
  | first :: second :: rest =>
      page.kind = .classlike ∧ ∀ path, ∃ joined,
        Strategy.sameClassName.merge (first :: second :: rest) path = .ok [joined] ∧
          page.detached = joined.detached

/-- The pages of `result` come from the pages of `root`: `sources` lists, in order, the pages that
went into the page at an address of `result`. -/
structure Provenance (root result : Page) (sources : Address → List Placed) : Prop where
  at?_source : ∀ {address source}, source ∈ sources address →
    root.at? source.address = some source.page
  nodup_sources : ∀ address, (sources address).Nodup
  /-- Each page of `root` is a source of exactly one page. -/
  existsUnique_image : ∀ {address page}, root.at? address = some page →
    ∃! image, ⟨address, page⟩ ∈ sources image
  /-- The pages of `result` are those that have a source. -/
  isSome_at?_iff : ∀ address, (result.at? address).isSome ↔ sources address ≠ []
  sources_root : sources [] = [⟨[], root⟩]
  parent_source : ∀ {address i source}, source ∈ sources (address ++ [i]) →
    ∃ parent ∈ sources address, ∃ j, source.address = parent.address ++ [j]
  kind_eq : ∀ {address page source}, result.at? address = some page → source ∈ sources address →
    source.page.kind = page.kind
  name_eq : ∀ {address page source}, result.at? address = some page → source ∈ sources address →
    source.page.name = page.name
  standsFor : ∀ {address page}, result.at? address = some page →
    page.StandsFor ((sources address).map Placed.page)
  /-- Among the pages with given kinds and names on the way down, none changes its place. -/
  along : ∀ path, (result.along path).flatMap (fun placed => sources placed.address) =
    root.along path

theorem Page.standsFor_standIn? {pages : List Page} (hkin : Kin pages) {page : Page}
    (h : standIn? pages = some page) : page.StandsFor pages := by
  rcases pages with _ | ⟨first, _ | ⟨second, rest⟩⟩
  · simp [standIn?] at h
  · obtain rfl := Option.some.inj h
    rfl
  · obtain rfl := Option.some.inj h
    refine ⟨rfl, ?_⟩
    intro path
    refine ⟨first.joined (first :: second :: rest), ?_, rfl⟩
    exact Strategy.merge_sameClassName first (second :: rest) path (hkin.classlike (by simp))

theorem Page.StandsFor.of_detached {page other : Page} {pages : List Page}
    (h : page.StandsFor pages) (hdetached : other.detached = page.detached) :
    other.StandsFor pages := by
  rcases pages with _ | ⟨first, _ | ⟨second, rest⟩⟩
  · exact h
  · exact hdetached.trans h
  · have hkind : other.kind = page.kind := by
      change other.detached.kind = page.detached.kind
      rw [hdetached]
    refine ⟨hkind.trans h.1, ?_⟩
    intro path
    obtain ⟨joined, hmerge, heq⟩ := h.2 path
    exact ⟨joined, hmerge, hdetached.trans heq⟩

namespace MergeConfig

variable (config : MergeConfig)

theorem mem_below_of_mem_sourcesAt {root : Page} {address : Address} {i : Nat} {source : Placed}
    (h : source ∈ config.sourcesAt root (address ++ [i])) :
    source ∈ Placed.below (config.sourcesAt root address) := by
  obtain ⟨part, hpart, hsource⟩ := config.getElem?_parts_of_mem_sourcesAt h
  have hmem : source ∈ (config.parts (Placed.below (config.sourcesAt root address))).flatten :=
    List.mem_flatten.mpr ⟨part, List.mem_of_getElem? hpart, hsource⟩
  rw [flatten_parts] at hmem
  exact (flatten_groupsBy_perm _ _).mem_iff.mp hmem

theorem at?_of_mem_sourcesAt {root : Page} {address : Address} {source : Placed}
    (h : source ∈ config.sourcesAt root address) :
    root.at? source.address = some source.page := by
  induction address using List.reverseRecOn generalizing source with
  | nil =>
      obtain rfl := List.mem_singleton.mp h
      rfl
  | append_singleton address i ih =>
      obtain ⟨parent, hparent, j, haddress, hchild⟩ :=
        Placed.mem_below.mp (config.mem_below_of_mem_sourcesAt h)
      rw [haddress, Page.at?_append_singleton, ih hparent, Option.bind_some, hchild]

theorem nodup_flatten_parts {pages : List Placed} (h : (pages.map Placed.address).Nodup) :
    ((config.parts pages).map (List.map Placed.address)).flatten.Nodup := by
  rw [← List.map_flatten, flatten_parts]
  exact ((flatten_groupsBy_perm _ pages).map Placed.address).nodup_iff.mpr h

theorem nodup_address_sourcesAt (root : Page) (address : Address) :
    ((config.sourcesAt root address).map Placed.address).Nodup := by
  induction address using List.reverseRecOn with
  | nil => exact List.nodup_singleton _
  | append_singleton address i ih =>
      rcases config.sourcesAt_append_singleton_mem root address i with hnil | hpart
      · rw [hnil]
        exact List.nodup_nil
      · have hflatten := config.nodup_flatten_parts (Placed.nodup_address_below ih)
        exact (List.nodup_flatten.mp hflatten).1 _ (List.mem_map_of_mem hpart)

theorem exists_mem_sourcesAt_append_singleton {root : Page} {address : Address} {source : Placed}
    (h : source ∈ Placed.below (config.sourcesAt root address)) :
    ∃ i, source ∈ config.sourcesAt root (address ++ [i]) := by
  have hmem := (flatten_groupsBy_perm Placed.key _).mem_iff.mpr h
  rw [← config.flatten_parts] at hmem
  obtain ⟨part, hpart, hsource⟩ := List.mem_flatten.mp hmem
  obtain ⟨i, hi⟩ := List.mem_iff_getElem?.mp hpart
  refine ⟨i, ?_⟩
  rw [sourcesAt_append_singleton, hi, Option.getD_some]
  exact hsource

theorem eq_of_mem_sourcesAt_append_singleton {root : Page} {address : Address} {i j : Nat}
    {source : Placed} (hi : source ∈ config.sourcesAt root (address ++ [i]))
    (hj : source ∈ config.sourcesAt root (address ++ [j])) : i = j := by
  have hnodup := config.nodup_flatten_parts
    (Placed.nodup_address_below (config.nodup_address_sourcesAt root address))
  obtain ⟨first, hfirst, hmemFirst⟩ := config.getElem?_parts_of_mem_sourcesAt hi
  obtain ⟨second, hsecond, hmemSecond⟩ := config.getElem?_parts_of_mem_sourcesAt hj
  apply index_eq_of_nodup_flatten hnodup
  · rw [List.getElem?_map, hfirst, Option.map_some]
  · rw [List.getElem?_map, hsecond, Option.map_some]
  · exact List.mem_map_of_mem hmemFirst
  · exact List.mem_map_of_mem hmemSecond

theorem exists_image {root : Page} {address : Address} {page : Page}
    (h : root.at? address = some page) : ∃ image, ⟨address, page⟩ ∈ config.sourcesAt root image := by
  induction address using List.reverseRecOn generalizing page with
  | nil =>
      obtain rfl := Option.some.inj h
      exact ⟨[], List.mem_singleton_self _⟩
  | append_singleton address i ih =>
      rw [Page.at?_append_singleton] at h
      obtain ⟨parent, hparent, hchild⟩ := Option.bind_eq_some_iff.mp h
      obtain ⟨image, himage⟩ := ih hparent
      have hbelow : ⟨address ++ [i], page⟩ ∈ Placed.below (config.sourcesAt root image) :=
        Placed.mem_below.mpr ⟨_, himage, i, rfl, hchild⟩
      obtain ⟨j, hj⟩ := config.exists_mem_sourcesAt_append_singleton hbelow
      exact ⟨image ++ [j], hj⟩

theorem image_unique {root : Page} {first second : Address} {source : Placed}
    (hfirst : source ∈ config.sourcesAt root first)
    (hsecond : source ∈ config.sourcesAt root second) : first = second := by
  induction first using List.reverseRecOn generalizing second source with
  | nil =>
      obtain rfl := List.mem_singleton.mp hfirst
      rcases List.eq_nil_or_concat' second with rfl | ⟨second, j, rfl⟩
      · rfl
      · obtain ⟨_, _, _, haddress, _⟩ :=
          Placed.mem_below.mp (config.mem_below_of_mem_sourcesAt hsecond)
        simp at haddress
  | append_singleton first i ih =>
      obtain ⟨parent, hparent, k, haddress, _⟩ :=
        Placed.mem_below.mp (config.mem_below_of_mem_sourcesAt hfirst)
      rcases List.eq_nil_or_concat' second with rfl | ⟨second, j, rfl⟩
      · obtain rfl := List.mem_singleton.mp hsecond
        simp at haddress
      · obtain ⟨other, hother, l, hsame, _⟩ :=
          Placed.mem_below.mp (config.mem_below_of_mem_sourcesAt hsecond)
        -- the source has one parent in the tree, which has one image by induction
        have hparents : parent.address = other.address :=
          (List.append_inj' (haddress.symm.trans hsame) rfl).1
        have hpages : parent.page = other.page := by
          have hparentAt := config.at?_of_mem_sourcesAt hparent
          rw [hparents, config.at?_of_mem_sourcesAt hother] at hparentAt
          exact (Option.some.inj hparentAt).symm
        obtain rfl := ih hparent (Placed.ext hparents hpages ▸ hother)
        rw [config.eq_of_mem_sourcesAt_append_singleton hfirst hsecond]

theorem isSome_at?_merged_iff (root : Page) (address : Address) :
    ((config.merged root).at? address).isSome ↔ config.sourcesAt root address ≠ [] := by
  rw [at?_merged, Option.isSome_map, Page.isSome_standIn?_iff]
  simp

theorem key_of_mem_sourcesAt {root : Page} {address : Address} {page : Page} {source : Placed}
    (h : (config.merged root).at? address = some page)
    (hsource : source ∈ config.sourcesAt root address) : source.key = page.key := by
  rw [at?_merged] at h
  obtain ⟨standIn, hstandIn, rfl⟩ := Option.map_eq_some_iff.mp h
  have hkey := (config.kin_sourcesAt root address).key_standIn? hstandIn
    (List.mem_map_of_mem hsource)
  rw [← Page.detached_key (config.mergedWithin _ _), detached_mergedWithin, Page.detached_key]
  exact hkey.symm

theorem standsFor_merged {root : Page} {address : Address} {page : Page}
    (h : (config.merged root).at? address = some page) :
    page.StandsFor ((config.sourcesAt root address).map Placed.page) := by
  rw [at?_merged] at h
  obtain ⟨standIn, hstandIn, rfl⟩ := Option.map_eq_some_iff.mp h
  exact (Page.standsFor_standIn? (config.kin_sourcesAt root address) hstandIn).of_detached
    (config.detached_mergedWithin _ _)

theorem map_sourcesAt_below {root : Page} {placed : Placed}
    (h : (config.merged root).at? placed.address = some placed.page) :
    ((Placed.below [placed]).map fun child => config.sourcesAt root child.address) =
      config.parts (Placed.below (config.sourcesAt root placed.address)) := by
  apply List.ext_getElem?
  intro i
  have hchild : (config.merged root).at? (placed.address ++ [i]) = placed.page.children[i]? := by
    rw [Page.at?_append_singleton, h, Option.bind_some]
  have hsome := config.isSome_at?_merged_iff root (placed.address ++ [i])
  rw [hchild, sourcesAt_append_singleton] at hsome
  have hbelow : (Placed.below [placed])[i]? =
      placed.page.children[i]?.map fun child => ⟨placed.address ++ [i], child⟩ := by
    simp [Placed.below]
  rw [List.getElem?_map, hbelow, Option.map_map]
  cases hpart : (config.parts (Placed.below (config.sourcesAt root placed.address)))[i]? with
  | none =>
      have hnone : placed.page.children[i]? = none := by
        simpa [hpart] using hsome
      rw [hnone, Option.map_none]
  | some part =>
      have hne := ne_nil_of_mem_parts (List.mem_of_getElem? hpart)
      have hexists : placed.page.children[i]?.isSome := by
        rw [hsome, hpart, Option.getD_some]
        exact hne
      obtain ⟨child, hget⟩ := Option.isSome_iff_exists.mp hexists
      rw [hget, Option.map_some, Function.comp_apply, sourcesAt_append_singleton, hpart,
        Option.getD_some]

theorem at?_of_mem_below {root : Page} {pages : List Placed}
    (h : ∀ placed ∈ pages, root.at? placed.address = some placed.page) {child : Placed}
    (hchild : child ∈ Placed.below pages) : root.at? child.address = some child.page := by
  obtain ⟨parent, hparent, i, haddress, hget⟩ := Placed.mem_below.mp hchild
  rw [haddress, Page.at?_append_singleton, h parent hparent, Option.bind_some, hget]

theorem flatMap_sourcesAt_filter_below_singleton {root : Page} {placed : Placed}
    (h : (config.merged root).at? placed.address = some placed.page) (k : PageKind × String) :
    ((Placed.below [placed]).filter fun child => child.key = k).flatMap
        (fun child => config.sourcesAt root child.address) =
      (Placed.below (config.sourcesAt root placed.address)).filter fun source => source.key = k := by
  have hkeys : ∀ child ∈ Placed.below [placed],
      ∀ source ∈ config.sourcesAt root child.address,
        decide (source.key = k) = decide (child.key = k) := by
    intro child hchild source hsource
    have hat := at?_of_mem_below (List.forall_mem_singleton.mpr h) hchild
    rw [config.key_of_mem_sourcesAt hat hsource]
  rw [filter_flatMap_of_agree hkeys, List.flatMap_def, config.map_sourcesAt_below h,
    flatten_parts, filter_flatten_groupsBy]

/-- The pages of one key below pages of the merged tree come from those of that key below the
sources. -/
theorem flatMap_sourcesAt_filter_below {root : Page} {pages : List Placed}
    (h : ∀ placed ∈ pages, (config.merged root).at? placed.address = some placed.page)
    (k : PageKind × String) :
    ((Placed.below pages).filter fun child => child.key = k).flatMap
        (fun child => config.sourcesAt root child.address) =
      (Placed.below (pages.flatMap fun placed => config.sourcesAt root placed.address)).filter
        fun source => source.key = k := by
  induction pages with
  | nil => rfl
  | cons placed rest ih =>
      have hrest := ih fun other hother => h other (List.mem_cons_of_mem placed hother)
      have hplaced := config.flatMap_sourcesAt_filter_below_singleton
        (h placed List.mem_cons_self) k
      rw [← List.singleton_append, Placed.below_append, List.filter_append, List.flatMap_append,
        hplaced, hrest, List.flatMap_append, Placed.below_append, List.filter_append,
        List.flatMap_singleton]

theorem flatMap_sourcesAt_along (root : Page) (path : List (PageKind × String)) :
    ((config.merged root).along path).flatMap (fun placed => config.sourcesAt root placed.address) =
      root.along path := by
  induction path using List.reverseRecOn with
  | nil => rfl
  | append_singleton path key ih =>
      rw [Page.along_append_singleton, Page.along_append_singleton, ← ih]
      apply config.flatMap_sourcesAt_filter_below
      intro placed hplaced
      exact Page.at?_of_mem_along hplaced

theorem provenance_merged (root : Page) :
    Provenance root (config.merged root) (config.sourcesAt root) where
  at?_source := config.at?_of_mem_sourcesAt
  nodup_sources address := (config.nodup_address_sourcesAt root address).of_map
  existsUnique_image h := by
    obtain ⟨image, himage⟩ := config.exists_image h
    refine ⟨image, himage, ?_⟩
    intro other hother
    exact config.image_unique hother himage
  isSome_at?_iff := config.isSome_at?_merged_iff root
  sources_root := rfl
  parent_source h := by
    obtain ⟨parent, hparent, j, haddress, _⟩ :=
      Placed.mem_below.mp (config.mem_below_of_mem_sourcesAt h)
    exact ⟨parent, hparent, j, haddress⟩
  kind_eq h hsource := congrArg Prod.fst (config.key_of_mem_sourcesAt h hsource)
  name_eq h hsource := congrArg Prod.snd (config.key_of_mem_sourcesAt h hsource)
  standsFor := config.standsFor_merged
  along := config.flatMap_sourcesAt_along root

end MergeConfig

/-- Every configured chain merges every tree, and the merged tree accounts for all of its pages. -/
theorem Chain.merge_provenance (config : MergeConfig) (root : Page) :
    ∃ result, (ofConfig config).merge root = .ok result ∧
      ∃ sources, Provenance root result sources :=
  ⟨config.merged root, merge_ofConfig config root, config.sourcesAt root,
    config.provenance_merged root⟩

end DocPages
