import DocPages.Proofs.Merge.Arrangement

/-!
Which pages of a tree become the page at an address of the merged tree.

The sources of a child are found among the children of the sources of its parent, whatever trees
the merging goes through on the way. `MergeConfig.at?_merged` computes every page of the merged
tree from its sources.
-/

namespace DocPages

variable [PropertyFamily]

namespace MergeConfig

variable (config : MergeConfig)

/-- Divides pages into parts, each of which becomes one page. -/
def parts (pages : List Placed) : List (List Placed) :=
  (groupsBy Placed.key pages).flatMap fun group =>
    if config.Joins (group.map Placed.page) then [group] else group.map fun placed => [placed]

theorem flatten_parts (pages : List Placed) :
    (config.parts pages).flatten = (groupsBy Placed.key pages).flatten := by
  rw [parts, List.flatten_eq_flatMap, List.flatMap_assoc, List.flatten_eq_flatMap]
  apply List.flatMap_congr
  intro group _
  split
  · simp
  · simp [List.flatMap_map]

variable {config}

theorem mem_part {pages part : List Placed} (hpart : part ∈ config.parts pages) :
    ∃ group ∈ groupsBy Placed.key pages,
      (config.Joins (group.map Placed.page) ∧ part = group) ∨
        ∃ placed ∈ group, part = [placed] := by
  obtain ⟨group, hgroup, hmem⟩ := List.mem_flatMap.mp hpart
  refine ⟨group, hgroup, ?_⟩
  split at hmem
  · rename_i hjoins
    exact Or.inl ⟨hjoins, List.mem_singleton.mp hmem⟩
  · obtain ⟨placed, hplaced, rfl⟩ := List.mem_map.mp hmem
    exact Or.inr ⟨placed, hplaced, rfl⟩

theorem ne_nil_of_mem_parts {pages part : List Placed} (hpart : part ∈ config.parts pages) :
    part ≠ [] := by
  obtain ⟨group, hgroup, ⟨_, rfl⟩ | ⟨placed, _, rfl⟩⟩ := mem_part hpart
  · exact ne_nil_of_mem_groupsBy hgroup
  · exact List.cons_ne_nil _ _

theorem kin_of_mem_parts {pages part : List Placed} (hpart : part ∈ config.parts pages) :
    Page.Kin (part.map Placed.page) := by
  obtain ⟨group, hgroup, ⟨hjoins, rfl⟩ | ⟨placed, _, rfl⟩⟩ := mem_part hpart
  · refine ⟨?_, fun _ => hjoins.2.2⟩
    intro first hfirst second hsecond
    obtain ⟨p, hp, rfl⟩ := List.mem_map.mp hfirst
    obtain ⟨q, hq, rfl⟩ := List.mem_map.mp hsecond
    exact key_eq_of_mem_group hgroup hp hq
  · exact Page.Kin.singleton _

variable (config)

theorem map_some_arrange (pages : List Placed) :
    (config.arrange (pages.map Placed.page)).map some =
      (config.parts pages).map fun part => Page.standIn? (part.map Placed.page) := by
  have hgroups : groupsBy Page.key (pages.map Placed.page) =
      (groupsBy Placed.key pages).map (List.map Placed.page) :=
    groupsBy_map Page.key Placed.page pages
  rw [arrange, hgroups, List.flatMap_map, parts, List.map_flatMap, List.map_flatMap]
  apply List.flatMap_congr
  intro group hgroup
  rw [regroup]
  split
  · have hne : group.map Placed.page ≠ [] := by simpa using ne_nil_of_mem_groupsBy hgroup
    obtain ⟨page, hpage⟩ := Page.exists_standIn? hne
    simp [hpage]
  · simp [Page.standIn?]

theorem getElem?_arrange (pages : List Placed) (i : Nat) :
    (config.arrange (pages.map Placed.page))[i]? =
      Page.standIn? (((config.parts pages)[i]?.getD []).map Placed.page) := by
  have h := congrArg (fun list => list[i]?) (config.map_some_arrange pages)
  simp only [List.getElem?_map] at h
  cases hpart : (config.parts pages)[i]? with
  | none =>
      rw [hpart, Option.map_none, Option.map_eq_none_iff] at h
      rw [h]
      rfl
  | some part =>
      rw [hpart, Option.map_some] at h
      obtain ⟨page, hpage, hstand⟩ := Option.map_eq_some_iff.mp h
      rw [hpage, Option.getD_some, hstand]

/-- The pages of a tree that become the page at an address of the merged tree. -/
def sourcesAt (root : Page) (address : Address) : List Placed :=
  address.foldl (fun sources i => (config.parts (Placed.below sources))[i]?.getD [])
    [⟨[], root⟩]

theorem sourcesAt_append_singleton (root : Page) (address : Address) (i : Nat) :
    config.sourcesAt root (address ++ [i]) =
      (config.parts (Placed.below (config.sourcesAt root address)))[i]?.getD [] := by
  simp [sourcesAt, List.foldl_append]

theorem sourcesAt_append_singleton_mem (root : Page) (address : Address) (i : Nat) :
    config.sourcesAt root (address ++ [i]) = [] ∨
      config.sourcesAt root (address ++ [i]) ∈
        config.parts (Placed.below (config.sourcesAt root address)) := by
  rw [sourcesAt_append_singleton]
  cases hpart : (config.parts (Placed.below (config.sourcesAt root address)))[i]? with
  | none => exact Or.inl rfl
  | some part => exact Or.inr (List.mem_of_getElem? hpart)

theorem getElem?_parts_of_mem_sourcesAt {root : Page} {address : Address} {i : Nat}
    {source : Placed} (h : source ∈ config.sourcesAt root (address ++ [i])) :
    ∃ part, (config.parts (Placed.below (config.sourcesAt root address)))[i]? = some part ∧
      source ∈ part := by
  rw [sourcesAt_append_singleton] at h
  cases hpart : (config.parts (Placed.below (config.sourcesAt root address)))[i]? with
  | none =>
      rw [hpart] at h
      exact absurd h List.not_mem_nil
  | some part =>
      rw [hpart] at h
      exact ⟨part, rfl, h⟩

theorem kin_sourcesAt (root : Page) (address : Address) :
    Page.Kin ((config.sourcesAt root address).map Placed.page) := by
  induction address using List.reverseRecOn with
  | nil => exact Page.Kin.singleton root
  | append_singleton address i _ =>
      rcases config.sourcesAt_append_singleton_mem root address i with hnil | hpart
      · rw [hnil]
        exact Page.Kin.nil
      · exact kin_of_mem_parts hpart

theorem standIn?_sourcesAt_append_singleton (root : Page) (address : Address) (i : Nat) :
    Page.standIn? ((config.sourcesAt root (address ++ [i])).map Placed.page) =
      (Page.standIn? ((config.sourcesAt root address).map Placed.page)).bind fun page =>
        (config.arrange page.children)[i]? := by
  rw [sourcesAt_append_singleton, ← getElem?_arrange, Placed.map_page_below]
  cases hstand : Page.standIn? ((config.sourcesAt root address).map Placed.page) with
  | none =>
      have hnil : config.sourcesAt root address = [] := by
        by_contra hne
        obtain ⟨page, hpage⟩ := Page.exists_standIn? (mt List.map_eq_nil_iff.mp hne)
        rw [hstand] at hpage
        cases hpage
      rw [hnil]
      rfl
  | some page =>
      rw [Option.bind_some, Page.children_standIn? hstand, List.flatMap_map]

theorem height_standIn?_sourcesAt {root : Page} {address : Address} {page : Page}
    (h : Page.standIn? ((config.sourcesAt root address).map Placed.page) = some page) :
    page.height + address.length ≤ root.height := by
  induction address using List.reverseRecOn generalizing page with
  | nil =>
      obtain rfl : root = page := Option.some.inj h
      exact Nat.le_refl _
  | append_singleton address i ih =>
      rw [standIn?_sourcesAt_append_singleton] at h
      obtain ⟨parent, hparent, hchild⟩ := Option.bind_eq_some_iff.mp h
      have hparentHeight := ih hparent
      have hchildHeight := config.height_of_mem_arrange (List.mem_of_getElem? hchild)
      rw [Page.height_eq] at hparentHeight
      simp only [List.length_append, List.length_singleton]
      omega

/-- The merged tree has at each address the page that stands for its sources, merged below. -/
theorem at?_merged (root : Page) (address : Address) :
    (config.merged root).at? address =
      (Page.standIn? ((config.sourcesAt root address).map Placed.page)).map
        (config.mergedWithin (root.height - address.length)) := by
  induction address using List.reverseRecOn with
  | nil => rfl
  | append_singleton address i ih =>
      rw [Page.at?_append_singleton, ih, standIn?_sourcesAt_append_singleton]
      cases hstand : Page.standIn? ((config.sourcesAt root address).map Placed.page) with
      | none => rfl
      | some page =>
          have hheight := config.height_standIn?_sourcesAt hstand
          rw [Page.height_eq] at hheight
          obtain ⟨depth, hdepth⟩ : ∃ depth, root.height - address.length = depth + 1 :=
            ⟨root.height - address.length - 1, by omega⟩
          have hbelow : root.height - (address ++ [i]).length = depth := by
            simp only [List.length_append, List.length_singleton]
            omega
          rw [hdepth, hbelow, Option.map_some, Option.bind_some, Option.bind_some, mergedWithin,
            List.getElem?_map]

end MergeConfig

end DocPages
