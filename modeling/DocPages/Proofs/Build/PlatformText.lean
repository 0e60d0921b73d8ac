import DocPages.Proofs.Build.Operations
import DocPages.Proofs.PlatformDependent
import DocPages.PropertyKind
import DocPages.Signature

namespace DocPages

open PlatformDependent (LastGiven)

namespace Build

variable {β : Type} {values : PlatformDependent β} {platforms wider : PlatformSet}
  {transform : β → String}

theorem isShown_iff {entry : PlatformData × β} : isShown platforms transform entry = true ↔
    entry.1 ∈ platforms ∧ ∃ c ∈ (transform entry.2).toList, Text.isBlankChar c = false := by
  simp [isShown, Text.isBlank]

/-- The entries whose values are shown. -/
def shown (values : PlatformDependent β) (platforms : PlatformSet) (transform : β → String) :
    List (PlatformData × β) :=
  values.toList.filter (isShown platforms transform)

theorem ascending_shown (values : PlatformDependent β) (platforms : PlatformSet)
    (transform : β → String) : Ascending Prod.fst (shown values platforms transform) :=
  values.ascending.sublist List.filter_sublist

theorem mem_shown_iff {entry : PlatformData × β} : entry ∈ shown values platforms transform ↔
    entry ∈ values ∧ entry.1 ∈ platforms ∧
      ∃ c ∈ (transform entry.2).toList, Text.isBlankChar c = false := by
  rw [shown, List.mem_filter, isShown_iff]
  rfl

theorem shown_sublist_shown (h : ∀ platform ∈ platforms, platform ∈ wider) :
    (shown values platforms transform).Sublist (shown values wider transform) := by
  apply List.monotone_filter_right
  intro entry hentry
  rw [isShown_iff] at hentry ⊢
  exact ⟨h entry.1 hentry.1, hentry.2⟩

variable [PropertyFamily]

theorem platformText_congr
    (h : ∀ entry ∈ values, (entry.1 ∈ platforms ↔ entry.1 ∈ wider)) :
    platformText values platforms transform = platformText values wider transform := by
  have hentries : ∀ entry ∈ values.toList,
      entryText platforms transform entry = entryText wider transform entry := by
    intro entry hentry
    have hshown : isShown platforms transform entry = isShown wider transform entry := by
      rw [Bool.eq_iff_iff, isShown_iff, isShown_iff, h entry hentry]
    rw [entryText, entryText, hshown]
  exact forM_congr hentries

theorem platformTextAll_eq (h : ∀ platform ∈ values.keys, platform ∈ wider) :
    platformTextAll values transform = platformText values wider transform := by
  apply platformText_congr
  intro entry hentry
  have hkey : entry.1 ∈ values.keys := List.mem_map_of_mem hentry
  exact ⟨h entry.1, fun _ => hkey⟩

theorem runFrom_platformText (values : PlatformDependent β) (platforms : PlatformSet)
    (transform : β → String) (tools : Toolkit) (scope : Scope) (nodes : List Node)
    (log : List Observation) :
    (platformText values platforms transform).runFrom tools ⟨scope, nodes⟩ log =
      .ok ((), ⟨scope, nodes ++ (shown values platforms transform).map fun entry =>
        .text (transform entry.2)
          { toScope := { scope with platforms := Keyed.singleton entry.1 } }⟩) := by
  have happend := (appendOnly_platformText values platforms transform).runFrom_eq tools scope nodes
    log
  rwa [nodes_platformText] at happend

/-- The values that are shown are those given last for a platform that is asked for, unless they
come out blank. They stand as they come out, in the order of the platforms, each on its own platform
alone and otherwise with the values of the scope. How the values were given makes no difference
beyond what was given last. More platforms show more values, between the others. It is enough to ask
for the platforms that have a value. -/
theorem platformText_shows_lastGiven (start writes : List (PlatformData × β))
    (platforms : PlatformSet) (transform : β → String) (tools : Toolkit) (scope : Scope) :
    let values := (PlatformDependent.ofList start).insertEach writes
    let leaf (entry : PlatformData × β) : Node := .text (transform entry.2)
      { toScope := { scope with platforms := Keyed.singleton entry.1 } }
    (∃ shown, Ascending Prod.fst shown ∧
      (∀ platform value, (platform, value) ∈ shown ↔
        platform ∈ platforms ∧ LastGiven (start ++ writes) platform value ∧
          ∃ c ∈ (transform value).toList, Text.isBlankChar c = false) ∧
      ∀ nodes log, (platformText values platforms transform).runFrom tools ⟨scope, nodes⟩ log =
        .ok ((), ⟨scope, nodes ++ shown.map leaf⟩)) ∧
    (∀ otherStart otherWrites : List (PlatformData × β),
      (∀ platform value, LastGiven (otherStart ++ otherWrites) platform value ↔
        LastGiven (start ++ writes) platform value) →
      platformText ((PlatformDependent.ofList otherStart).insertEach otherWrites) platforms
        transform = platformText values platforms transform) ∧
    (∀ wider : PlatformSet, (∀ platform ∈ platforms, platform ∈ wider) →
      ∃ fewer more, fewer.Sublist more ∧
        (platformText values platforms transform).nodes tools scope = .ok fewer ∧
        (platformText values wider transform).nodes tools scope = .ok more) ∧
    ∀ wider : PlatformSet, (∀ platform ∈ values.keys, platform ∈ wider) →
      platformTextAll values transform = platformText values wider transform := by
  intro values leaf
  have hvalues : values = PlatformDependent.ofList (start ++ writes) :=
    PlatformDependent.insertEach_ofList start writes
  refine ⟨⟨shown values platforms transform, ascending_shown values platforms transform, ?_, ?_⟩,
    ?_, ?_, fun wider => platformTextAll_eq⟩
  · intro platform value
    rw [mem_shown_iff, hvalues, PlatformDependent.mem_ofList_iff]
    exact and_left_comm
  · exact runFrom_platformText values platforms transform tools scope
  · intro otherStart otherWrites h
    rw [PlatformDependent.insertEach_ofList, PlatformDependent.ofList_congr h, ← hvalues]
  · intro wider hwider
    have hsublist : (shown values platforms transform).Sublist (shown values wider transform) :=
      shown_sublist_shown hwider
    exact ⟨_, _, hsublist.map leaf, nodes_platformText tools scope values platforms transform,
      nodes_platformText tools scope values wider transform⟩

end Build

namespace Build

theorem platformText_shows_lastGiven_sameName :
    let tools : Toolkit := ⟨DocTag.toContent, Documentable.functionSignature, ", "⟩
    let scope : Scope := { dris := Keyed.singleton (.package "p") }
    let js : PlatformData := ⟨"js", .js, []⟩
    let first : PlatformData := ⟨"jvm", .jvm, ["jvm"]⟩
    let second : PlatformData := ⟨"jvm", .jvm, ["jvm", "17"]⟩
    let start := [(second, " b "), (first, "a")]
    let writes := [(js, " "), (first, "c")]
    let final := [(first, "c"), (js, " "), (second, " b ")]
    let leaf (platform : PlatformData) (s : String) : Node :=
      .text s { toScope := { scope with platforms := Keyed.singleton platform } }
    (∀ platform value,
      LastGiven (start ++ writes) platform value ↔ LastGiven final platform value) ∧
    (platformText ((PlatformDependent.ofList start).insertEach writes)
        (Keyed.ofList [second, first, js]) id).runFrom tools ⟨scope, []⟩ [] =
      .ok ((), ⟨scope, [leaf first "c", leaf second " b "]⟩) := by
  intro tools scope js first second start writes final leaf
  have hsame : PlatformDependent.ofList (start ++ writes) = PlatformDependent.ofList final :=
    Keyed.ext (by decide +kernel)
  have hlast : ∀ platform value,
      LastGiven (start ++ writes) platform value ↔ LastGiven final platform value := by
    intro platform value
    rw [← PlatformDependent.mem_ofList_iff, ← PlatformDependent.mem_ofList_iff, hsame]
  have hshown : shown ((PlatformDependent.ofList final).insertEach [])
      (Keyed.ofList [second, first, js]) id = [(first, "c"), (second, " b ")] := by
    decide +kernel
  obtain ⟨_, hhistory, _⟩ := platformText_shows_lastGiven final []
    (Keyed.ofList [second, first, js]) id tools scope
  refine ⟨hlast, ?_⟩
  rw [hhistory start writes hlast, runFrom_platformText, hshown]
  rfl

end Build

end DocPages
