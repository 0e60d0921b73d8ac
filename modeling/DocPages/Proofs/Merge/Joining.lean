import DocPages.Content.Visible
import DocPages.Proofs.Merge.Configured
import DocPages.PropertyKind

namespace DocPages

section

variable [PropertyFamily]

namespace Page

/-- A page without children that stands for several pages of one class, with the name and identity
of the first. Its content applies to the platforms of all of them, and has in the place of each page
a group that holds the content of this page alone. -/
structure JoinedFrom (first : Page) (sources : List Page) (page : Page) : Prop where
  name_eq : page.name = first.name
  kind_eq : page.kind = .classlike
  dris_eq : page.dris = first.dris
  documentable_eq : page.documentable = none
  resources_eq : page.resources = []
  children_eq : page.children = []
  exists_content : ∃ sections platforms,
    page.content = .group ⟨sections,
      { dris := first.dris, kind := .main, platforms, styles := ∅, extra := ∅ }⟩ ∧
    (∀ platform, platform ∈ platforms ↔ ∃ source ∈ sources, platform ∈ source.content.platforms) ∧
    ∀ i : Nat, sections[i]? = sources[i]?.map fun source =>
      .group ⟨[source.content],
        { dris := source.dris
          kind := .classlikes
          platforms := source.content.platforms
          styles := source.content.styles
          extra := source.content.extra }⟩

/-- The identities and contents in the sections of a joined page. -/
def sections (page : Page) : List (DriSet × Node) :=
  match page.content with
  | .group ⟨nodes, _⟩ => nodes.filterMap fun node =>
      match node with
      | .group ⟨[content], attrs⟩ => some (attrs.dris, content)
      | _ => none
  | _ => []

theorem joinedFrom_iff {first : Page} {sources : List Page} {page : Page} :
    JoinedFrom first sources page ↔ page = first.joined sources := by
  constructor
  · rintro ⟨hname, hkind, hdris, hdocumentable, hresources, hchildren, sections, platforms,
      hcontent, hplatforms, hsections⟩
    have hsame : platforms = platformsOf sources := OrderedSet.eq_ofList_flatMap_iff.mpr hplatforms
    have hplaces : sections = sources.map classlikeSection := by
      apply List.ext_getElem?
      intro i
      rw [hsections, List.getElem?_map]
      rfl
    obtain ⟨name, kind, dris, content, documentable, resources, children⟩ := page
    obtain rfl : name = _ := hname
    obtain rfl : kind = _ := hkind
    obtain rfl : dris = _ := hdris
    obtain rfl : documentable = _ := hdocumentable
    obtain rfl : resources = _ := hresources
    obtain rfl : children = _ := hchildren
    obtain rfl : content = _ := hcontent
    rw [hsame, hplaces]
    rfl
  · rintro rfl
    refine ⟨rfl, rfl, rfl, rfl, rfl, rfl, sources.map classlikeSection, platformsOf sources, rfl,
      OrderedSet.eq_ofList_flatMap_iff.mp rfl, ?_⟩
    intro i
    rw [List.getElem?_map]
    rfl

theorem sections_joined (first : Page) (sources : List Page) :
    (first.joined sources).sections = sources.map fun source => (source.dris, source.content) := by
  have hread : (first.joined sources).sections =
      (sources.map classlikeSection).filterMap fun node =>
        match node with
        | .group ⟨[content], attrs⟩ => some (attrs.dris, content)
        | _ => none := rfl
  rw [hread, List.filterMap_map]
  exact congrFun
    (List.filterMap_eq_map (f := fun source : Page => (source.dris, source.content))) sources

theorem hasAnyContent_joined (first : Page) (sources : List Page) :
    (first.joined sources).content.hasAnyContent = true ↔
      ∃ source ∈ sources, source.content.hasAnyContent = true := by
  simp [joined, classlikeSection, GroupOf.hasAnyContent]

end Page

namespace Strategy

theorem merge_sameClassName_eq_ok_iff {pages merged : List Page} {path : List String} :
    sameClassName.merge pages path = .ok merged ↔ ∃ first rest, pages = first :: rest ∧
      (∀ page ∈ pages, page.isClasslike) ∧ merged = [first.joined pages] := by
  constructor
  · intro h
    cases pages with
    | nil => cases h
    | cons first rest =>
        cases hfind : (first :: rest).find? fun page => !page.isClasslike with
        | some page =>
            simp only [sameClassName, hfind] at h
            cases h
        | none =>
            simp only [sameClassName, hfind] at h
            obtain rfl := Except.ok.inj h
            refine ⟨first, rest, rfl, ?_, rfl⟩
            intro page hpage
            simpa using List.find?_eq_none.mp hfind page hpage
  · rintro ⟨first, rest, rfl, hclasslike, rfl⟩
    exact merge_sameClassName first rest path hclasslike

theorem merge_sameClassName_eq_error_iff {pages : List Page} {path : List String}
    {error : MergeError} :
    sameClassName.merge pages path = .error error ↔
      (pages = [] ∧ error = .empty (joinPath path)) ∨
        ∃ front page back, pages = front ++ page :: back ∧
          (∀ other ∈ front, other.isClasslike) ∧ page.isClasslike = false ∧
          error = .notClasslike (joinPath path) page.name := by
  cases pages with
  | nil =>
      constructor
      · intro h
        exact .inl ⟨rfl, (Except.error.inj h).symm⟩
      · rintro (⟨_, rfl⟩ | ⟨front, page, back, hpages, _⟩)
        · rfl
        · exact absurd hpages.symm (List.append_ne_nil_of_right_ne_nil front (List.cons_ne_nil _ _))
  | cons first rest =>
      constructor
      · intro h
        cases hfind : (first :: rest).find? fun page => !page.isClasslike with
        | none =>
            simp only [sameClassName, hfind] at h
            cases h
        | some page =>
            simp only [sameClassName, hfind] at h
            obtain rfl := Except.error.inj h
            obtain ⟨hpage, front, back, hpages, hfront⟩ := List.find?_eq_some_iff_append.mp hfind
            refine .inr ⟨front, page, back, hpages, ?_, by simpa using hpage, rfl⟩
            intro other hother
            simpa using hfront other hother
      · rintro (⟨hnone, _⟩ | ⟨front, page, back, hpages, hfront, hpage, rfl⟩)
        · cases hnone
        · have hfind : (first :: rest).find? (fun page => !page.isClasslike) = some page := by
            apply List.find?_eq_some_iff_append.mpr
            refine ⟨by simp [hpage], front, back, hpages, ?_⟩
            intro other hother
            simp [hfront other hother]
          simp only [sameClassName, hfind]

/-- Joining succeeds on the lists it accepts and on no others: the empty list is refused as such, and
every other list for its first page that is not class-like. What it makes of pages is one page joined
from them, from which their identities and contents can be read in order, and which shows something
exactly if one of them does. -/
theorem sameClassName_contract (pages : List Page) (path : List String) :
    ((∃ merged, sameClassName.merge pages path = .ok merged) ↔
        sameClassName.accepts pages = true) ∧
      (∀ error, sameClassName.merge pages path = .error error ↔
        (pages = [] ∧ error = .empty (joinPath path)) ∨
          ∃ front page back, pages = front ++ page :: back ∧
            (∀ other ∈ front, other.isClasslike) ∧ page.isClasslike = false ∧
            error = .notClasslike (joinPath path) page.name) ∧
      (∀ merged, sameClassName.merge pages path = .ok merged ↔
        ∃ first rest page, pages = first :: rest ∧ (∀ source ∈ pages, source.isClasslike) ∧
          merged = [page] ∧ Page.JoinedFrom first pages page) ∧
      ∀ page, sameClassName.merge pages path = .ok [page] →
        page.sections = pages.map (fun source => (source.dris, source.content)) ∧
          (page.content.hasAnyContent = true ↔
            ∃ source ∈ pages, source.content.hasAnyContent = true) := by
  refine ⟨?_, fun _ => merge_sameClassName_eq_error_iff, ?_, ?_⟩
  · rw [accepts_sameClassName_iff]
    constructor
    · rintro ⟨merged, h⟩
      obtain ⟨first, rest, rfl, hclasslike, _⟩ := merge_sameClassName_eq_ok_iff.mp h
      exact ⟨List.cons_ne_nil first rest, hclasslike⟩
    · rintro ⟨hne, hclasslike⟩
      obtain ⟨first, rest, rfl⟩ := List.exists_cons_of_ne_nil hne
      exact ⟨_, merge_sameClassName first rest path hclasslike⟩
  · intro merged
    rw [merge_sameClassName_eq_ok_iff]
    constructor
    · rintro ⟨first, rest, hpages, hclasslike, rfl⟩
      exact ⟨first, rest, _, hpages, hclasslike, rfl, Page.joinedFrom_iff.mpr rfl⟩
    · rintro ⟨first, rest, page, hpages, hclasslike, rfl, hjoined⟩
      rw [Page.joinedFrom_iff] at hjoined
      exact ⟨first, rest, hpages, hclasslike, congrArg (fun page => [page]) hjoined⟩
  · intro page h
    obtain ⟨first, rest, _, _, hpage⟩ := merge_sameClassName_eq_ok_iff.mp h
    obtain rfl := List.singleton_inj.mp hpage
    exact ⟨Page.sections_joined first pages, Page.hasAnyContent_joined first pages⟩

end Strategy

end

namespace Strategy

theorem sameClassName_contract_hinted :
    let page (name : String) (kind : PageKind) (content : Node) : Page :=
      { name, kind, dris := Keyed.singleton (.package name), content }
    let hinted := page "Foo" .classlike
      (.platformHinted (.text "for the JVM" {}) (Keyed.singleton ⟨"jvm", .jvm, []⟩))
    let blank := page "Foo" .classlike (.group ⟨[.lineBreak {}], {}⟩)
    let function := page "foo" .member (.text "fun foo" {})
    (∃ page, sameClassName.merge [hinted, blank] [] = .ok [page] ∧
        Page.JoinedFrom hinted [hinted, blank] page ∧
        page.sections = [(hinted.dris, hinted.content), (blank.dris, blank.content)] ∧
        page.content.hasAnyContent = true) ∧
      sameClassName.merge [hinted, function, blank] ["root", "Foo"] =
        .error (.notClasslike "root/Foo" "foo") := by
  intro page hinted blank function
  obtain ⟨⟨_, haccepts⟩, _, hok, hread⟩ := sameClassName_contract [hinted, blank] []
  obtain ⟨merged, hmerged⟩ := haccepts rfl
  obtain ⟨first, rest, joined, hpages, _, rfl, hjoined⟩ := (hok merged).mp hmerged
  obtain ⟨rfl, _⟩ := List.cons.inj hpages
  obtain ⟨hsections, hvisible⟩ := hread joined hmerged
  refine ⟨⟨joined, hmerged, hjoined, hsections, hvisible.mpr ⟨hinted, List.mem_cons_self, ?_⟩⟩, ?_⟩
  · decide
  · apply ((sameClassName_contract [hinted, function, blank] ["root", "Foo"]).2.1 _).mpr
    exact .inr ⟨[hinted], function, [blank], rfl, List.forall_mem_singleton.mpr rfl, rfl, rfl⟩

end Strategy

end DocPages
