import Mathlib.Data.List.Induction
import Mathlib.Data.List.Nodup
import DocPages.Merge.Tree

namespace DocPages

variable [PropertyFamily]

abbrev Address := List Nat

namespace Page

theorem height_eq (page : Page) : page.height = heightAll page.children + 1 := by
  cases page
  rfl

theorem heightAll_le_iff {pages : List Page} {n : Nat} :
    heightAll pages ≤ n ↔ ∀ page ∈ pages, page.height ≤ n := by
  induction pages with
  | nil => simp [heightAll]
  | cons page rest ih => rw [heightAll, Nat.max_le, ih, List.forall_mem_cons]

theorem height_le_heightAll {page : Page} {pages : List Page} (h : page ∈ pages) :
    page.height ≤ heightAll pages :=
  heightAll_le_iff.mp (Nat.le_refl _) page h

theorem not_height_le_zero (page : Page) : ¬ page.height ≤ 0 := by
  rw [height_eq]
  omega

theorem heightAll_children_le {page : Page} {depth : Nat} (h : page.height ≤ depth + 1) :
    heightAll page.children ≤ depth := by
  rw [height_eq] at h
  omega

theorem heightAll_flatMap_children_lt {pages : List Page} (hne : pages ≠ []) :
    heightAll (pages.flatMap children) < heightAll pages := by
  have hparent : ∀ page ∈ pages, heightAll page.children < heightAll pages := by
    intro page hpage
    have hle := height_le_heightAll hpage
    rw [height_eq] at hle
    omega
  obtain ⟨page, hpage⟩ := List.exists_mem_of_ne_nil pages hne
  have hpos := hparent page hpage
  have hle : heightAll (pages.flatMap children) ≤ heightAll pages - 1 := by
    apply heightAll_le_iff.mpr
    intro child hchild
    obtain ⟨parent, hmem, hchild⟩ := List.mem_flatMap.mp hchild
    have hbelow := height_le_heightAll hchild
    have habove := hparent parent hmem
    omega
  omega

/-- The page at an address below a page, if the tree has one there. -/
def at? (page : Page) : Address → Option Page
  | [] => some page
  | i :: rest => page.children[i]?.bind fun child => child.at? rest

@[simp] theorem at?_nil (page : Page) : page.at? [] = some page := rfl

theorem at?_cons (page : Page) (i : Nat) (rest : Address) :
    page.at? (i :: rest) = page.children[i]?.bind fun child => child.at? rest := rfl

theorem at?_append_singleton (page : Page) (address : Address) (i : Nat) :
    page.at? (address ++ [i]) = (page.at? address).bind fun parent => parent.children[i]? := by
  induction address generalizing page with
  | nil =>
      rw [List.nil_append, at?_cons, at?_nil, Option.bind_some]
      exact Option.bind_fun_some _
  | cons j rest ih =>
      rw [List.cons_append, at?_cons, at?_cons, Option.bind_assoc]
      apply Option.bind_congr
      intro child _
      exact ih child

theorem forall_at?_iff {P : Page → Prop} {page : Page} :
    (∀ address inner, page.at? address = some inner → P inner) ↔
      P page ∧ ∀ child ∈ page.children, ∀ address inner,
        child.at? address = some inner → P inner := by
  constructor
  · intro h
    refine ⟨h [] page rfl, ?_⟩
    intro child hchild address inner hinner
    obtain ⟨i, hi⟩ := List.mem_iff_getElem?.mp hchild
    apply h (i :: address)
    rw [at?_cons, hi, Option.bind_some, hinner]
  · rintro ⟨hpage, hchildren⟩ address inner hinner
    cases address with
    | nil =>
        obtain rfl := Option.some.inj hinner
        exact hpage
    | cons i rest =>
        rw [at?_cons] at hinner
        obtain ⟨child, hchild, hinner⟩ := Option.bind_eq_some_iff.mp hinner
        exact hchildren child (List.mem_of_getElem? hchild) rest inner hinner

theorem induction {motive : Page → Prop}
    (step : ∀ page, (∀ child ∈ page.children, motive child) → motive page) (page : Page) :
    motive page := by
  apply step
  intro child hchild
  exact induction step child
termination_by page.height
decreasing_by
  have hle := height_le_heightAll hchild
  rw [height_eq page]
  omega

@[simp] theorem detached_key (page : Page) : page.detached.key = page.key := rfl

theorem isClasslike_iff {page : Page} : page.isClasslike ↔ page.key.1 = .classlike := by
  rw [isClasslike, beq_iff_eq]
  rfl

theorem adopt_detached (page : Page) : page.detached.adopt page.children = page := by
  cases page
  rfl

theorem with_children_eq {page : Page} {children : List Page} (h : children = page.children) :
    { page with children } = page := by
  subst h
  cases page
  rfl

end Page

/-- A page together with its address in a tree. -/
@[ext]
structure Placed where
  address : Address
  page : Page

namespace Placed

abbrev key (placed : Placed) : PageKind × String := placed.page.key

/-- The children of some pages, in order. -/
def below (pages : List Placed) : List Placed :=
  pages.flatMap fun parent =>
    parent.page.children.mapIdx fun i child => ⟨parent.address ++ [i], child⟩

theorem mem_below {pages : List Placed} {placed : Placed} :
    placed ∈ below pages ↔ ∃ parent ∈ pages, ∃ i,
      placed.address = parent.address ++ [i] ∧
        parent.page.children[i]? = some placed.page := by
  simp only [below, List.mem_flatMap, List.mem_mapIdx]
  constructor
  · rintro ⟨parent, hparent, i, hi, rfl⟩
    exact ⟨parent, hparent, i, rfl, List.getElem?_eq_getElem hi⟩
  · rintro ⟨parent, hparent, i, haddress, hchild⟩
    obtain ⟨hi, hget⟩ := List.getElem?_eq_some_iff.mp hchild
    refine ⟨parent, hparent, i, hi, ?_⟩
    rw [hget, ← haddress]

theorem below_append (front back : List Placed) :
    below (front ++ back) = below front ++ below back := List.flatMap_append

theorem map_page_below (pages : List Placed) :
    (below pages).map page = pages.flatMap fun parent => parent.page.children := by
  rw [below, List.map_flatMap]
  apply List.flatMap_congr
  intro parent _
  apply List.ext_getElem?
  intro i
  simp only [List.getElem?_map, List.getElem?_mapIdx, Option.map_map]
  exact Option.map_id_apply

theorem map_address_below (pages : List Placed) :
    (below pages).map address = pages.flatMap fun parent =>
      (List.range parent.page.children.length).map fun i => parent.address ++ [i] := by
  rw [below, List.map_flatMap]
  apply List.flatMap_congr
  intro parent _
  apply List.ext_getElem
  · simp
  · intro i _ _
    simp

theorem nodup_address_below {pages : List Placed} (h : (pages.map address).Nodup) :
    ((below pages).map address).Nodup := by
  rw [map_address_below, List.nodup_flatMap]
  constructor
  · intro parent _
    apply List.nodup_range.map
    intro i j hij
    simpa using hij
  · apply (List.pairwise_map.mp h).imp
    intro first second hne address hfirst hsecond
    obtain ⟨i, _, rfl⟩ := List.mem_map.mp hfirst
    obtain ⟨j, _, hj⟩ := List.mem_map.mp hsecond
    exact hne (List.append_inj' hj rfl).1.symm

end Placed

namespace Page

/-- The pages with given kinds and names on the way down from a root, from left to right. -/
def along (root : Page) (path : List (PageKind × String)) : List Placed :=
  path.foldl (fun pages key => (Placed.below pages).filter fun placed => placed.key = key)
    [⟨[], root⟩]

theorem along_append_singleton (root : Page) (path : List (PageKind × String))
    (key : PageKind × String) :
    root.along (path ++ [key]) =
      (Placed.below (root.along path)).filter fun placed => placed.key = key := by
  simp [along, List.foldl_append]

theorem at?_of_mem_along {root : Page} {path : List (PageKind × String)} {placed : Placed}
    (h : placed ∈ root.along path) : root.at? placed.address = some placed.page := by
  induction path using List.reverseRecOn generalizing placed with
  | nil =>
      obtain rfl := List.mem_singleton.mp h
      rfl
  | append_singleton path key ih =>
      rw [along_append_singleton] at h
      obtain ⟨parent, hparent, i, haddress, hchild⟩ :=
        Placed.mem_below.mp (List.mem_of_mem_filter h)
      rw [haddress, at?_append_singleton, ih hparent, Option.bind_some, hchild]

end Page

end DocPages
