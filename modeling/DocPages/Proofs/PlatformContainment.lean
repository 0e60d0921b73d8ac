import DocPages.Proofs.Build.Containment
import DocPages.Proofs.Merge.Contents
import DocPages.PropertyKind
import DocPages.Signature

namespace DocPages

section

variable [PropertyFamily]

namespace Page

theorem fitsIn_classlikeSection {page : Page} (h : page.content.Narrowing) :
    page.classlikeSection.FitsIn page.platforms := by
  have hself := OrderedSet.subset_refl page.platforms
  exact Node.fitsIn_group hself (List.forall_mem_singleton.mpr h.fitsIn_own)

theorem narrowing_joined {pages : List Page} (h : ∀ page ∈ pages, page.content.Narrowing)
    (first : Page) : (first.joined pages).content.Narrowing := by
  refine (Node.fitsIn_group (OrderedSet.subset_refl (platformsOf pages)) ?_).2
  rw [List.forall_mem_map]
  intro page hpage
  apply (fitsIn_classlikeSection (h page hpage)).mono
  intro platform hplatform
  exact OrderedSet.mem_ofList_flatMap.mpr ⟨page, hpage, hplatform⟩

end Page

theorem Strategy.keeps_narrowing_sameClassName : sameClassName.Keeps Node.Narrowing := by
  intro pages path merged hpages hmerged
  obtain ⟨first, rest, _, _, rfl⟩ := merge_sameClassName_eq_ok_iff.mp hmerged
  have hcontents : ∀ page ∈ pages, page.content.Narrowing :=
    fun page hpage => (Page.throughout_iff.mp (hpages page hpage)).1
  have hjoined := Page.narrowing_joined hcontents first
  exact List.forall_mem_singleton.mpr
    (Page.throughout_iff.mpr ⟨hjoined, List.forall_mem_nil _⟩)

theorem Chain.throughout_narrowing_ofConfig {config : MergeConfig} {root result : Page}
    (hroot : root.Throughout Node.Narrowing)
    (h : (ofConfig config).merge root = .ok result) : result.Throughout Node.Narrowing := by
  refine throughout_merge ?_ hroot h
  rw [ofConfig, List.forall_mem_map]
  intro name _
  cases name with
  | sameClassName => exact Strategy.keeps_narrowing_sameClassName
  | default => exact Strategy.keeps_keep Node.Narrowing

/-- A program whose explicit platforms narrow the scopes they are used in builds a tree in which
every node applies to no other platforms than the nodes it stands in, and hinted nodes are hinted
on their own platforms. Merging keeps this of the contents of all pages of a tree. -/
theorem platforms_contained :
    (∀ (tools : Toolkit) (entry : Entry) (program : List Step) (root : Group), tools.Faithful →
      Step.Narrows tools entry.attrs.toScope program → entry.build tools program = .ok root →
        (Node.group root).Narrowing) ∧
      (∀ signature listSeparator,
        Toolkit.Faithful ⟨DocTag.toContent, signature, listSeparator⟩) ∧
      ∀ (config : MergeConfig) (root : Page), root.Throughout Node.Narrowing → ∃ result,
        (Chain.ofConfig config).merge root = .ok result ∧ result.Throughout Node.Narrowing := by
  refine ⟨?_, ?_, ?_⟩
  · intro tools entry program root htools hprogram hroot
    exact Entry.narrowing_build htools hprogram hroot
  · intro signature listSeparator tag identity platforms
    exact tag.carries_toContent identity platforms
  · intro config root hroot
    have hmerge := Chain.merge_ofConfig config root
    exact ⟨config.merged root, hmerge, Chain.throughout_narrowing_ofConfig hroot hmerge⟩

end

theorem platforms_contained_jvmOnly :
    let tools : Toolkit := ⟨DocTag.toContent, Documentable.functionSignature, ", "⟩
    let jvm : PlatformData := ⟨"jvm", .jvm, []⟩
    let entry : Entry := ⟨∅, Keyed.ofList [jvm, ⟨"js", .js, []⟩], {}⟩
    let onJvm : Params := .ofPlatform jvm
    let program : List Step :=
      [.comment (.text "about") {}, .hint onJvm [.text "only here" onJvm],
        .table {} [] [(onJvm, [.link "T" .topLevel {}])],
        .divergentGroup {} [⟨true, ∅, Keyed.singleton jvm, {}, [⟨.divergent, onJvm, []⟩]⟩]]
    let page (root : Group) : Page := ⟨"T", .classlike, ∅, .group root, none, [], []⟩
    let tree (root : Group) : Page := { page root with children := [page root, page root] }
    tools.Faithful ∧ Step.Narrows tools entry.attrs.toScope program ∧
      ∃ root, entry.build tools program = .ok root ∧ (Node.group root).Narrowing ∧
        (tree root).Throughout Node.Narrowing ∧ ∃ result,
          (Chain.ofConfig {}).merge (tree root) = .ok result ∧
            result.Throughout Node.Narrowing := by
  intro tools jvm entry onJvm program page tree
  obtain ⟨hbuilt, hfaithful, hmerged⟩ := platforms_contained
  have htools := hfaithful Documentable.functionSignature ", "
  have hself := OrderedSet.subset_refl (Keyed.singleton jvm : PlatformSet)
  have hjvm : Keyed.singleton jvm ⊆ entry.platforms := by
    intro platform hplatform
    obtain rfl := List.mem_singleton.mp hplatform
    decide
  have honJvm : onJvm.Narrow entry.attrs.toScope := by
    rintro platforms ⟨⟩
    exact hjvm
  have hempty (scope : Scope) : ({} : Params).Narrow scope := nofun
  have hnone (scope : Scope) : Step.Narrows tools scope [] := .nil scope
  have hprogram : Step.Narrows tools entry.attrs.toScope program := by
    refine .cons (hempty _) nofun (.cons honJvm ?_ (.cons ?_ ?_ (.cons ?_ ?_ (hnone _))))
    · -- the body of the hint is used in the scope that the hint narrows
      refine List.forall_mem_singleton.mpr (.cons ?_ nofun (hnone _))
      rintro platforms ⟨⟩
      exact hself
    · exact ⟨hempty _, List.forall_mem_singleton.mpr hjvm⟩
    · refine List.forall_mem_cons.mpr ⟨hnone _, List.forall_mem_singleton.mpr ?_⟩
      exact .cons (hempty _) nofun (hnone _)
    · refine List.forall_mem_singleton.mpr ⟨hjvm, List.forall_mem_singleton.mpr ?_⟩
      rintro platforms ⟨⟩
      exact hself
    · exact List.forall_mem_singleton.mpr (hnone _)
  have hroot : ∃ root, entry.build tools program = .ok root := ⟨_, rfl⟩
  obtain ⟨root, hroot⟩ := hroot
  have hnarrowing := hbuilt tools entry program root htools hprogram hroot
  have hpage : (page root).Throughout Node.Narrowing :=
    Page.throughout_iff.mpr ⟨hnarrowing, nofun⟩
  have htree : (tree root).Throughout Node.Narrowing := by
    refine Page.throughout_iff.mpr ⟨hnarrowing, ?_⟩
    exact List.forall_mem_cons.mpr ⟨hpage, List.forall_mem_singleton.mpr hpage⟩
  exact ⟨htools, hprogram, root, hroot, hnarrowing, htree, hmerged {} (tree root) htree⟩

end DocPages
