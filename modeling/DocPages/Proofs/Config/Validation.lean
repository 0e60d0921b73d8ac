import DocPages.Config.Validate
import DocPages.Proofs.Traversal
import Mathlib.Data.List.Forall2
import Mathlib.Data.List.Induction
import Mathlib.Data.List.Nodup

namespace DocPages

/-- Texts that differ at most in the case of their ASCII letters. -/
def Text.SameButForCase (a b : String) : Prop :=
  a.toList.map Char.toLower = b.toList.map Char.toLower

namespace Platform

theorem map_toLower_eq_key_iff {key : String} {platform : Platform} :
    key.map Char.toLower = platform.key ↔ Text.SameButForCase key platform.key := by
  have hlower : platform.key.toList.map Char.toLower = platform.key.toList := by
    cases platform <;> decide
  rw [Text.SameButForCase, hlower, ← String.toList_inj, String.toList_map]

theorem ofKey_eq_ok_iff {key : String} {platform : Platform} :
    ofKey key = .ok platform ↔ Text.SameButForCase key platform.key := by
  rw [← map_toLower_eq_key_iff, ofKey]
  cases hfound : all.find? (·.key == key.map Char.toLower) with
  | none =>
      have hmem : platform ∈ all := by cases platform <;> decide
      refine iff_of_false nofun ?_
      intro h
      exact List.find?_eq_none.mp hfound platform hmem (beq_iff_eq.mpr h.symm)
  | some found =>
      have hkey : found.key = key.map Char.toLower := by simpa using List.find?_some hfound
      constructor
      · intro h
        rw [← Except.ok.inj h, hkey]
      · intro h
        exact congrArg Except.ok (eq_of_key_eq (hkey.trans h))

theorem ofKey_eq_error {key : String} (h : ∀ platform : Platform,
    ¬ Text.SameButForCase key platform.key) : ofKey key = .error ⟨key⟩ := by
  cases hkey : ofKey key with
  | ok platform => exact absurd (ofKey_eq_ok_iff.mp hkey) (h platform)
  | error unknown =>
      rw [ofKey] at hkey
      split at hkey
      · cases hkey
      · exact hkey.symm

end Platform

namespace PlatformEntry

def HasVisibleName (entry : PlatformEntry) : Prop :=
  ∃ c ∈ entry.name.toList, Text.isBlankChar c = false

def NamesPlatform (entry : PlatformEntry) : Prop :=
  ∃ platform : Platform, Text.SameButForCase entry.platform platform.key

/-- What a declaration is refused for when it follows others. -/
inductive Offends (earlier : List PlatformEntry) (entry : PlatformEntry) : ConfigError → Prop where
  | blankName (hname : ¬ entry.HasVisibleName) : Offends earlier entry (.invalid .blankName)
  | repeatedName (hname : entry.HasVisibleName) (hrepeated : entry.name ∈ earlier.map name) :
      Offends earlier entry (.invalid (.repeatedName entry.name))
  | unknownPlatform (hname : entry.HasVisibleName) (hfresh : entry.name ∉ earlier.map name)
      (hunknown : ¬ entry.NamesPlatform) :
      Offends earlier entry (.unknownPlatform entry.name ⟨entry.platform⟩)

/-- No declaration offends among those before it. -/
def NoneOffends (entries : List PlatformEntry) : Prop :=
  ∀ earlier entry later, entries = earlier ++ entry :: later → ∀ error,
    ¬ entry.Offends earlier error

/-- The platform that a declaration stands for. -/
structure Declares (entry : PlatformEntry) (data : PlatformData) : Prop where
  name_eq : data.name = entry.name
  platform_key : Text.SameButForCase entry.platform data.platform.key
  targets_eq : data.targets = entry.targets.getD [data.platform.key]

variable {earlier entries : List PlatformEntry} {entry : PlatformEntry} {error : ConfigError}

theorem isBlank_name_iff : Text.isBlank entry.name = true ↔ ¬ entry.HasVisibleName := by
  simp [Text.isBlank, HasVisibleName]

theorem Offends.unique {other : ConfigError} (h : entry.Offends earlier error)
    (hother : entry.Offends earlier other) : error = other := by
  cases h <;> cases hother <;> first | rfl | contradiction

theorem forall_not_offends_iff : (∀ error, ¬ entry.Offends earlier error) ↔
    entry.HasVisibleName ∧ entry.name ∉ earlier.map name ∧ entry.NamesPlatform := by
  constructor
  · intro h
    have hname : entry.HasVisibleName := by
      by_contra hname
      exact h _ (.blankName hname)
    have hfresh : entry.name ∉ earlier.map name := by
      intro hrepeated
      exact h _ (.repeatedName hname hrepeated)
    refine ⟨hname, hfresh, ?_⟩
    by_contra hunknown
    exact h _ (.unknownPlatform hname hfresh hunknown)
  · rintro ⟨hname, hfresh, hplatform⟩ error h
    cases h <;> contradiction

theorem resolve_eq_ok (h : entry.NamesPlatform) :
    ∃ data, entry.resolve = .ok data ∧ entry.Declares data := by
  obtain ⟨platform, hplatform⟩ := h
  refine ⟨⟨entry.name, platform, entry.targets.getD [platform.key]⟩, ?_, rfl, hplatform, rfl⟩
  rw [resolve, Platform.ofKey_eq_ok_iff.mpr hplatform]

theorem resolve_eq_error (h : ¬ entry.NamesPlatform) :
    entry.resolve = .error (.unknownPlatform entry.name ⟨entry.platform⟩) := by
  rw [resolve, Platform.ofKey_eq_error fun platform hplatform => h ⟨platform, hplatform⟩]

theorem map_name_of_declares {declared : List PlatformData}
    (h : List.Forall₂ Declares entries declared) :
    declared.map PlatformData.name = entries.map name := by
  induction h with
  | nil => rfl
  | cons hentry _ ih => rw [List.map_cons, List.map_cons, hentry.name_eq, ih]

theorem noneOffends_nil : NoneOffends [] := by
  intro earlier entry later h
  simp at h

theorem noneOffends_append_singleton : NoneOffends (entries ++ [entry]) ↔
    NoneOffends entries ∧ ∀ error, ¬ entry.Offends entries error := by
  constructor
  · intro h
    refine ⟨?_, h entries entry [] rfl⟩
    rintro earlier other later rfl
    exact h earlier other (later ++ [entry]) (by simp)
  · rintro ⟨hentries, hentry⟩ earlier other later hsplit
    rcases List.eq_nil_or_concat later with rfl | ⟨later, last, rfl⟩
    · obtain ⟨rfl, hlast⟩ := List.append_inj' hsplit rfl
      obtain rfl := List.singleton_inj.mp hlast
      exact hentry
    · rw [List.concat_eq_append, ← List.cons_append, ← List.append_assoc] at hsplit
      exact hentries earlier other later (List.append_inj' hsplit rfl).1

theorem noneOffends_iff : NoneOffends entries ↔ (∀ entry ∈ entries, entry.HasVisibleName) ∧
    (entries.map name).Nodup ∧ ∀ entry ∈ entries, entry.NamesPlatform := by
  induction entries using List.reverseRecOn with
  | nil => simp [noneOffends_nil]
  | append_singleton entries entry ih =>
      have hnodup : ((entries ++ [entry]).map name).Nodup ↔
          (entries.map name).Nodup ∧ entry.name ∉ entries.map name := by
        rw [List.map_append, List.map_singleton, List.nodup_append_comm, List.singleton_append,
          List.nodup_cons, and_comm]
      rw [noneOffends_append_singleton, ih, forall_not_offends_iff, hnodup,
        List.forall_mem_append, List.forall_mem_append, List.forall_mem_singleton,
        List.forall_mem_singleton]
      tauto

theorem error_eq_of_first {front front' back back' : List PlatformEntry}
    {entry' : PlatformEntry} {error' : ConfigError}
    (hsplit : front ++ entry :: back = front' ++ entry' :: back')
    (hfront : NoneOffends front) (hfront' : NoneOffends front')
    (h : entry.Offends front error) (h' : entry'.Offends front' error') : error = error' := by
  rcases List.append_eq_append_iff.mp hsplit with ⟨between, rfl, hback⟩ | ⟨between, rfl, hback⟩
  all_goals rcases between with _ | ⟨other, between⟩
  all_goals obtain ⟨rfl, rfl⟩ := List.cons.inj hback
  · rw [List.append_nil] at h'
    exact h.unique h'
  · exact absurd h (hfront' front entry between rfl error)
  · rw [List.append_nil] at h
    exact h.unique h'
  · exact absurd h' (hfront front' entry' between rfl error')

end PlatformEntry

namespace Config

open PlatformEntry

/-- What a configuration has to meet. -/
structure Valid (config : Config) : Prop where
  visible_names : ∀ entry ∈ config.platforms, entry.HasVisibleName
  distinct_names : (config.platforms.map PlatformEntry.name).Nodup
  known_platforms : ∀ entry ∈ config.platforms, entry.NamesPlatform
  strategies_ne_nil : config.merge.strategies ≠ []

/-- The fault that counts: that of the first declaration that offends, or else the lack of
strategies. -/
inductive FirstFault (config : Config) : ConfigError → Prop where
  | platform {earlier later : List PlatformEntry} {entry : PlatformEntry} {error : ConfigError}
      (hplatforms : config.platforms = earlier ++ entry :: later)
      (hearlier : NoneOffends earlier) (h : entry.Offends earlier error) : FirstFault config error
  | noStrategies (hplatforms : NoneOffends config.platforms)
      (hstrategies : config.merge.strategies = []) : FirstFault config (.invalid .noStrategies)

variable {config : Config}

theorem validatePlatforms_cons {seen : List String} {earlier : List PlatformEntry}
    (hseen : ∀ name, name ∈ seen ↔ name ∈ earlier.map PlatformEntry.name)
    (entry : PlatformEntry) (rest : List PlatformEntry) :
    (∃ error, entry.Offends earlier error ∧
        validatePlatforms seen (entry :: rest) = .error error) ∨
      (∀ error, ¬ entry.Offends earlier error) ∧
        validatePlatforms seen (entry :: rest) = validatePlatforms (entry.name :: seen) rest := by
  rw [validatePlatforms, forall_not_offends_iff]
  by_cases hname : entry.HasVisibleName
  · rw [if_neg fun hblank => isBlank_name_iff.mp hblank hname]
    by_cases hrepeated : entry.name ∈ seen
    · rw [if_pos hrepeated]
      exact .inl ⟨_, .repeatedName hname ((hseen _).mp hrepeated), rfl⟩
    · have hfresh : entry.name ∉ earlier.map PlatformEntry.name := by rwa [← hseen]
      rw [if_neg hrepeated]
      by_cases hplatform : entry.NamesPlatform
      · obtain ⟨data, hresolve, _⟩ := resolve_eq_ok hplatform
        rw [hresolve]
        exact .inr ⟨⟨hname, hfresh, hplatform⟩, rfl⟩
      · rw [resolve_eq_error hplatform]
        exact .inl ⟨_, .unknownPlatform hname hfresh hplatform, rfl⟩
  · rw [if_pos (isBlank_name_iff.mpr hname)]
    exact .inl ⟨_, .blankName hname, rfl⟩

theorem validatePlatforms_spec {seen : List String} {earlier : List PlatformEntry}
    (hseen : ∀ name, name ∈ seen ↔ name ∈ earlier.map PlatformEntry.name)
    (hearlier : NoneOffends earlier) (entries : List PlatformEntry) :
    (validatePlatforms seen entries = .ok () ∧ NoneOffends (earlier ++ entries)) ∨
      ∃ front entry back error, earlier ++ entries = front ++ entry :: back ∧
        NoneOffends front ∧ entry.Offends front error ∧
        validatePlatforms seen entries = .error error := by
  induction entries generalizing seen earlier with
  | nil =>
      rw [List.append_nil]
      exact .inl ⟨rfl, hearlier⟩
  | cons entry rest ih =>
      rcases validatePlatforms_cons hseen entry rest with ⟨error, h, herror⟩ | ⟨hentry, hrest⟩
      · exact .inr ⟨earlier, entry, rest, error, rfl, hearlier, h, herror⟩
      · -- the entry joins those before it, and the names seen are still theirs
        have hseen' : ∀ name, name ∈ entry.name :: seen ↔
            name ∈ (earlier ++ [entry]).map PlatformEntry.name := by
          intro name
          rw [List.mem_cons, hseen, List.map_append, List.map_singleton, List.mem_append,
            List.mem_singleton, or_comm]
        have hnext := ih hseen' (noneOffends_append_singleton.mpr ⟨hearlier, hentry⟩)
        rw [List.append_assoc, List.singleton_append] at hnext
        rw [hrest]
        exact hnext

theorem valid_iff : config.Valid ↔
    NoneOffends config.platforms ∧ config.merge.strategies ≠ [] := by
  rw [noneOffends_iff]
  constructor
  · rintro ⟨hnames, hdistinct, hplatforms, hstrategies⟩
    exact ⟨⟨hnames, hdistinct, hplatforms⟩, hstrategies⟩
  · rintro ⟨⟨hnames, hdistinct, hplatforms⟩, hstrategies⟩
    exact ⟨hnames, hdistinct, hplatforms, hstrategies⟩

theorem validate_spec (config : Config) : (config.validate = .ok () ∧ config.Valid) ∨
    ∃ error, config.validate = .error error ∧ config.FirstFault error := by
  have hseen : ∀ name, name ∈ [] ↔ name ∈ ([] : List PlatformEntry).map PlatformEntry.name :=
    fun _ => Iff.rfl
  rw [valid_iff, validate]
  rcases validatePlatforms_spec hseen noneOffends_nil config.platforms
    with ⟨hok, hnone⟩ | ⟨front, entry, back, error, hsplit, hfront, h, herror⟩
  · rw [hok]
    by_cases hstrategies : config.merge.strategies = []
    · rw [hstrategies]
      exact .inr ⟨_, rfl, .noStrategies hnone hstrategies⟩
    · rw [List.isEmpty_eq_false_iff.mpr hstrategies]
      exact .inl ⟨rfl, hnone, hstrategies⟩
  · rw [herror]
    exact .inr ⟨error, rfl, .platform hsplit hfront h⟩

theorem Valid.not_firstFault (hvalid : config.Valid) {error : ConfigError} :
    ¬ config.FirstFault error := by
  obtain ⟨hnone, hstrategies⟩ := valid_iff.mp hvalid
  intro h
  cases h with
  | platform hplatforms _ h => exact hnone _ _ _ hplatforms _ h
  | noStrategies _ hnil => exact hstrategies hnil

theorem FirstFault.unique {error other : ConfigError} (h : config.FirstFault error)
    (hother : config.FirstFault other) : error = other := by
  cases h with
  | platform hplatforms hearlier h =>
      cases hother with
      | platform hplatforms' hearlier' h' =>
          exact error_eq_of_first (hplatforms.symm.trans hplatforms') hearlier hearlier' h h'
      | noStrategies hnone _ => exact absurd h (hnone _ _ _ hplatforms _)
  | noStrategies hnone _ =>
      cases hother with
      | platform hplatforms _ h => exact absurd h (hnone _ _ _ hplatforms _)
      | noStrategies _ _ => rfl

theorem validate_eq_ok_iff : config.validate = .ok () ↔ config.Valid := by
  rcases config.validate_spec with ⟨hok, hvalid⟩ | ⟨error, herror, hfault⟩
  · exact iff_of_true hok hvalid
  · refine iff_of_false ?_ fun hvalid => hvalid.not_firstFault hfault
    rw [herror]
    exact nofun

theorem validate_eq_error_iff {error : ConfigError} :
    config.validate = .error error ↔ config.FirstFault error := by
  rcases config.validate_spec with ⟨hok, hvalid⟩ | ⟨found, hfound, hfault⟩
  · refine iff_of_false ?_ hvalid.not_firstFault
    rw [hok]
    exact nofun
  · rw [hfound, Except.error.injEq]
    constructor
    · rintro rfl
      exact hfault
    · intro h
      exact hfault.unique h

theorem platformData_eq_ok (hvalid : config.Valid) : ∃ platforms declared,
    config.platformData = .ok platforms ∧ platforms.toList.Perm declared ∧
      List.Forall₂ PlatformEntry.Declares config.platforms declared := by
  obtain ⟨declared, hdeclared, hdeclares⟩ := exists_mapM_eq_ok fun entry hentry =>
    resolve_eq_ok (hvalid.known_platforms entry hentry)
  have hnodup : declared.Nodup := by
    apply List.Nodup.of_map PlatformData.name
    rw [map_name_of_declares hdeclares]
    exact hvalid.distinct_names
  refine ⟨Keyed.ofList declared, declared, ?_, OrderedSet.toList_ofList_perm hnodup, hdeclares⟩
  rw [platformData, hdeclared]
  rfl

/-- Checking passes exactly the valid configurations and reports the first fault of all others. The
platforms that a valid configuration declares are those of its entries, one for each. -/
theorem validate_reports_first_fault (config : Config) :
    (config.validate = .ok () ↔ config.Valid) ∧
      (∀ error, config.validate = .error error ↔ config.FirstFault error) ∧
      (config.validate = .ok () → ∃ platforms declared, config.platformData = .ok platforms ∧
        platforms.size = config.platforms.length ∧ platforms.toList.Perm declared ∧
        List.Forall₂ PlatformEntry.Declares config.platforms declared) := by
  refine ⟨validate_eq_ok_iff, fun error => validate_eq_error_iff, ?_⟩
  intro hok
  obtain ⟨platforms, declared, hplatforms, hperm, hdeclares⟩ :=
    platformData_eq_ok (validate_eq_ok_iff.mp hok)
  have hsize : platforms.size = config.platforms.length :=
    hperm.length_eq.trans hdeclares.length_eq.symm
  exact ⟨platforms, declared, hplatforms, hsize, hperm, hdeclares⟩

theorem validate_reports_first_fault_twoSourceSets :
    let config : Config :=
      { platforms := [⟨"main", "JVM", none⟩, ⟨"test", "jvm", some ["jvm"]⟩] }
    config.validate = .ok () ∧ ∃ platforms declared, config.platformData = .ok platforms ∧
      platforms.size = config.platforms.length ∧ platforms.toList.Perm declared ∧
      List.Forall₂ PlatformEntry.Declares config.platforms declared := by
  intro config
  obtain ⟨hvalid, _, hplatforms⟩ := validate_reports_first_fault config
  have hmain : (⟨"main", "JVM", none⟩ : PlatformEntry).HasVisibleName :=
    ⟨'m', by decide, by decide⟩
  have htest : (⟨"test", "jvm", some ["jvm"]⟩ : PlatformEntry).HasVisibleName :=
    ⟨'t', by decide, by decide⟩
  have hcase : Text.SameButForCase "JVM" Platform.jvm.key := by
    simp [Text.SameButForCase, Platform.key]
  have hok : config.validate = .ok () := by
    refine hvalid.mpr ⟨?_, by decide, ?_, by decide⟩
    · exact List.forall_mem_cons.mpr ⟨hmain, List.forall_mem_singleton.mpr htest⟩
    · exact List.forall_mem_cons.mpr ⟨⟨.jvm, hcase⟩, List.forall_mem_singleton.mpr ⟨.jvm, rfl⟩⟩
  exact ⟨hok, hplatforms hok⟩

end Config

end DocPages
