import DocPages.Config.Format
import DocPages.Proofs.Config.Validation
import DocPages.Proofs.FileSystem
import Mathlib.Logic.Relation

namespace DocPages

open Relation (ReflTransGen)

namespace Config

variable {files : FileSystem} {current last : Location}

theorem entryIn?_of_directories {dir : Location} (hnames : ∀ name ∈ dir, Location.IsName name)
    (habove : ∀ above, above <+: dir → files.isDirectory above)
    (hlimit : (pathIn dir).utf8ByteSize ≤ FileSystem.pathLimit) :
    entryIn? files dir = files (dir ++ ["docforge.toml"]) := by
  have hlast : Location.IsName "docforge.toml" := ⟨by decide, by decide, by decide, by decide⟩
  have hall : ∀ name ∈ dir ++ ["docforge.toml"], Location.IsName name :=
    List.forall_mem_append.mpr ⟨hnames, List.forall_mem_singleton.mpr hlast⟩
  exact FileSystem.lookUp_rooted [] hall habove hlimit

/-- One step of the search: out of a directory without a configuration. -/
inductive Outward (files : FileSystem) : Location → Location → Prop where
  | step {dir : Location} {name : String} (h : entryIn? files (dir ++ [name]) = none) :
      Outward files (dir ++ [name]) dir

/-- The search from a directory comes to an end in another. -/
structure EndsIn (files : FileSystem) (current last : Location) : Prop where
  reached : ReflTransGen (Outward files) current last
  ended : ∀ next, ¬ Outward files last next

theorem outward_append_singleton_iff {dir next : Location} {name : String} :
    Outward files (dir ++ [name]) next ↔
      entryIn? files (dir ++ [name]) = none ∧ next = dir := by
  constructor
  · generalize hfrom : dir ++ [name] = source
    rintro ⟨h⟩
    exact ⟨h, (List.append_inj' hfrom rfl).1.symm⟩
  · rintro ⟨h, rfl⟩
    exact .step h

theorem endsIn_iff_eq (h : ∀ next, ¬ Outward files current next) :
    EndsIn files current last ↔ last = current := by
  constructor
  · rintro ⟨hreached, _⟩
    rcases ReflTransGen.cases_head hreached with rfl | ⟨next, hnext, _⟩
    · rfl
    · exact absurd hnext (h next)
  · rintro rfl
    exact ⟨.refl, h⟩

theorem endsIn_root_iff : EndsIn files [] last ↔ last = [] := by
  apply endsIn_iff_eq
  intro next
  generalize hroot : ([] : Location) = root
  rintro ⟨_⟩
  exact List.append_ne_nil_of_right_ne_nil _ (List.cons_ne_nil _ _) hroot.symm

theorem endsIn_append_singleton_iff {dir : Location} {name : String} :
    EndsIn files (dir ++ [name]) last ↔
      if entryIn? files (dir ++ [name]) = none then EndsIn files dir last
      else last = dir ++ [name] := by
  split
  · rename_i hnone
    have hstep : Outward files (dir ++ [name]) dir := .step hnone
    constructor
    · rintro ⟨hreached, hended⟩
      rcases ReflTransGen.cases_head hreached with rfl | ⟨next, hnext, hrest⟩
      · exact absurd hstep (hended dir)
      · obtain ⟨_, rfl⟩ := outward_append_singleton_iff.mp hnext
        exact ⟨hrest, hended⟩
    · rintro ⟨hreached, hended⟩
      exact ⟨.head hstep hreached, hended⟩
  · rename_i hsome
    apply endsIn_iff_eq
    intro next hnext
    exact hsome (outward_append_singleton_iff.mp hnext).1

theorem existsUnique_endsIn (files : FileSystem) (current : Location) :
    ∃! last, EndsIn files current last := by
  induction current using List.reverseRecOn with
  | nil => exact ⟨[], endsIn_root_iff.mpr rfl, fun _ => endsIn_root_iff.mp⟩
  | append_singleton dir name ih =>
      simp only [endsIn_append_singleton_iff]
      split
      · exact ih
      · exact ⟨dir ++ [name], rfl, fun _ h => h⟩

/-- The innermost directory with a configuration, seen from the current one, or the root if there is
none. -/
structure Nearest (files : FileSystem) (current last : Location) : Prop where
  above : last <+: current
  inner_none : ∀ dir, dir <+: current → last.length < dir.length →
    entryIn? files dir = none
  root_of_none : entryIn? files last = none → last = []

theorem nearest_of_found (h : entryIn? files current ≠ none) : Nearest files current current := by
  refine ⟨List.prefix_rfl, ?_, fun hnone => absurd hnone h⟩
  intro inner hwithin hlength
  exact absurd hwithin.length_le (Nat.not_le.mpr hlength)

theorem nearest_root_iff : Nearest files [] last ↔ last = [] := by
  constructor
  · rintro ⟨habove, _, _⟩
    exact List.prefix_nil.mp habove
  · rintro rfl
    refine ⟨List.prefix_rfl, ?_, fun _ => rfl⟩
    intro dir hdir hlength
    exact absurd hdir.length_le (Nat.not_le.mpr hlength)

theorem nearest_append_singleton_iff {dir : Location} {name : String} :
    Nearest files (dir ++ [name]) last ↔
      if entryIn? files (dir ++ [name]) = none then Nearest files dir last
      else last = dir ++ [name] := by
  have hdir : dir <+: dir ++ [name] := List.prefix_append dir [name]
  split
  · rename_i hnone
    constructor
    · rintro ⟨habove, hinner, hroot⟩
      refine ⟨?_, fun inner hwithin => hinner inner (hwithin.trans hdir), hroot⟩
      rcases List.prefix_concat_iff.mp habove with rfl | habove
      · exact absurd (hroot hnone) (List.append_ne_nil_of_right_ne_nil dir (List.cons_ne_nil _ _))
      · exact habove
    · rintro ⟨habove, hinner, hroot⟩
      refine ⟨habove.trans hdir, ?_, hroot⟩
      intro inner hwithin hlength
      rcases List.prefix_concat_iff.mp hwithin with rfl | hwithin
      · exact hnone
      · exact hinner inner hwithin hlength
  · rename_i hsome
    constructor
    · rintro ⟨habove, hinner, _⟩
      have hlength : (dir ++ [name]).length ≤ last.length := by
        by_contra hlt
        exact hsome (hinner (dir ++ [name]) List.prefix_rfl (Nat.not_le.mp hlt))
      exact habove.eq_of_length_le hlength
    · rintro rfl
      exact nearest_of_found hsome

theorem endsIn_iff_nearest : EndsIn files current last ↔ Nearest files current last := by
  induction current using List.reverseRecOn with
  | nil => rw [endsIn_root_iff, nearest_root_iff]
  | append_singleton dir name ih =>
      rw [endsIn_append_singleton_iff, nearest_append_singleton_iff, ih]

/-- What stands outside the nearest directory has no influence on the search. -/
theorem Nearest.congr {others : FileSystem} (h : Nearest files current last)
    (hothers : ∀ dir, dir <+: current → last.length ≤ dir.length →
      entryIn? others dir = entryIn? files dir) : Nearest others current last := by
  refine ⟨h.above, ?_, ?_⟩
  · intro dir hdir hlength
    rw [hothers dir hdir (Nat.le_of_lt hlength)]
    exact h.inner_none dir hdir hlength
  · rw [hothers last h.above (Nat.le_refl _)]
    exact h.root_of_none

theorem Nearest.forall_none (h : Nearest files current last)
    (hnone : entryIn? files last = none) {dir : Location} (hdir : dir <+: current) :
    entryIn? files dir = none := by
  obtain rfl := h.root_of_none hnone
  rcases Nat.eq_zero_or_pos dir.length with hzero | hpos
  · rw [List.length_eq_zero_iff.mp hzero]
    exact hnone
  · exact h.inner_none dir hdir hpos

theorem discover?_append_singleton (files : FileSystem) (dir : Location) (name : String) :
    discover? files (dir ++ [name]) =
      if entryIn? files (dir ++ [name]) = none then discover? files dir
      else some (dir ++ [name]) := by
  rw [discover?, Location.upwards_append_singleton, List.find?_cons]
  cases entryIn? files (dir ++ [name]) with
  | none => rfl
  | some entry => rfl

theorem discover?_of_endsIn (h : EndsIn files current last) :
    discover? files current = (entryIn? files last).map fun _ => last := by
  induction current using List.reverseRecOn with
  | nil =>
      obtain rfl := endsIn_root_iff.mp h
      simp only [discover?, Location.upwards, List.find?_cons]
      cases entryIn? files [] with
      | none => rfl
      | some entry => rfl
  | append_singleton dir name ih =>
      rw [endsIn_append_singleton_iff] at h
      rw [discover?_append_singleton]
      split
      · rename_i hnone
        rw [if_pos hnone] at h
        exact ih h
      · rename_i hsome
        rw [if_neg hsome] at h
        subst h
        obtain ⟨entry, hentry⟩ := Option.ne_none_iff_exists'.mp hsome
        rw [hentry]
        rfl

theorem valid_default : ({} : Config).Valid := by
  refine ⟨List.forall_mem_nil _, List.nodup_nil, List.forall_mem_nil _, ?_⟩
  exact List.cons_ne_nil _ _

theorem FirstFault.ne_notFound {config : Config} {error : ConfigError}
    (h : config.FirstFault error) (name : String) : error ≠ .notFound name := by
  cases h with
  | platform _ _ h => cases h <;> nofun
  | noStrategies _ _ => nofun

end Config

namespace ConfigFormat

open Config

/-- What the entry at a path is read as. -/
inductive Reads (format : ConfigFormat) (path : String) :
    FileEntry → Except ConfigError Config → Prop where
  | directory : Reads format path .directory (.error .unreadable)
  | locked : Reads format path .locked (.error .unreadable)
  | notText {content : ByteArray} (h : ∀ text : String, text.toUTF8 ≠ content) :
      Reads format path (.file content) (.error .unreadable)
  | malformed {text : String} (h : format text = none) :
      Reads format path (.file text.toUTF8) (.error .malformed)
  | invalid {text : String} {config : Config} {error : ConfigError}
      (hformat : format text = some config) (h : config.FirstFault error) :
      Reads format path (.file text.toUTF8) (.error error)
  | valid {text : String} {config : Config} (hformat : format text = some config)
      (h : config.Valid) :
      Reads format path (.file text.toUTF8) (.ok { config with path := some path })

variable {format : ConfigFormat} {path : String} {entry : FileEntry}
  {outcome : Except ConfigError Config}

theorem read_text (format : ConfigFormat) (path text : String) :
    format.read path (.file text.toUTF8) = (do
      let config ← format.ofText text
      return { config with path := some path }) := by
  have htext : String.fromUTF8? text.toUTF8 = some text := fromUTF8?_eq_some_iff.mpr rfl
  simp only [read, htext]

theorem Reads.read_eq (h : Reads format path entry outcome) : format.read path entry = outcome := by
  cases h with
  | directory => rfl
  | locked => rfl
  | @notText content h =>
      have hcontent : String.fromUTF8? content = none := by
        rw [Option.eq_none_iff_forall_ne_some]
        intro text htext
        exact h text (fromUTF8?_eq_some_iff.mp htext)
      simp only [read, hcontent]
  | malformed h =>
      rw [read_text, ofText, h]
      rfl
  | invalid hformat h =>
      rw [read_text, ofText, hformat]
      simp only [validate_eq_error_iff.mpr h]
      rfl
  | valid hformat h =>
      rw [read_text, ofText, hformat]
      simp only [validate_eq_ok_iff.mpr h]
      rfl

theorem exists_reads (format : ConfigFormat) (path : String) (entry : FileEntry) :
    ∃ outcome, Reads format path entry outcome := by
  cases entry with
  | directory => exact ⟨_, .directory⟩
  | locked => exact ⟨_, .locked⟩
  | file content =>
      by_cases htext : ∃ text : String, text.toUTF8 = content
      · obtain ⟨text, rfl⟩ := htext
        cases hformat : format text with
        | none => exact ⟨_, .malformed hformat⟩
        | some config =>
            rcases config.validate_spec with ⟨_, hvalid⟩ | ⟨error, _, hfault⟩
            · exact ⟨_, .valid hformat hvalid⟩
            · exact ⟨_, .invalid hformat hfault⟩
      · exact ⟨_, .notText (not_exists.mp htext)⟩

theorem read_eq_iff : format.read path entry = outcome ↔ Reads format path entry outcome := by
  constructor
  · rintro rfl
    obtain ⟨outcome, h⟩ := exists_reads format path entry
    rwa [h.read_eq]
  · exact Reads.read_eq

theorem Reads.ne_notFound (h : Reads format path entry outcome) (name : String) :
    outcome ≠ .error (.notFound name) := by
  cases h with
  | invalid _ h =>
      intro heq
      exact h.ne_notFound name (Except.error.inj heq)
  | _ => nofun

theorem Reads.of_ok {config : Config} (h : Reads format path entry (.ok config)) :
    config.Valid ∧ config.path = some path := by
  cases h with
  | valid _ h => exact ⟨⟨h.1, h.2, h.3, h.4⟩, rfl⟩

variable {files : FileSystem} {current last : Location}

theorem loadFile_eq_iff (h : files.lookUp current path = some entry) :
    format.loadFile files current path = outcome ↔ Reads format path entry outcome := by
  simp only [loadFile, h]
  exact read_eq_iff

theorem load_some_of_found (h : files.lookUp current path = some entry) :
    format.load files current (some path) = format.loadFile files current path := by
  simp only [load, h, Option.isSome_some, if_true]

theorem load_some_of_missing (h : files.lookUp current path = none) :
    format.load files current (some path) = .error (.notFound path) := by
  simp only [load, h, Option.isSome_none, Bool.false_eq_true, if_false]

theorem load_none_of_found (h : Nearest files current last)
    (hentry : entryIn? files last = some entry) :
    format.load files current none = format.loadFile files [] (pathIn last) := by
  simp only [load, discover?_of_endsIn (endsIn_iff_nearest.mpr h), hentry, Option.map_some]

theorem load_none_of_missing (h : Nearest files current last)
    (hentry : entryIn? files last = none) :
    format.load files current none = .ok {} := by
  simp only [load, discover?_of_endsIn (endsIn_iff_nearest.mpr h), hentry, Option.map_none]

theorem load_some_eq_notFound_iff {name : String} :
    format.load files current (some path) = .error (.notFound name) ↔
      name = path ∧ files.lookUp current path = none := by
  cases hentry : files.lookUp current path with
  | none =>
      rw [load_some_of_missing hentry]
      simp [eq_comm]
  | some entry =>
      rw [load_some_of_found hentry, loadFile_eq_iff hentry]
      refine iff_of_false ?_ nofun
      intro h
      exact h.ne_notFound name rfl

theorem load_none_eq_default_iff :
    format.load files current none = .ok {} ↔
      ∀ dir, dir <+: current → entryIn? files dir = none := by
  obtain ⟨last, hends, _⟩ := existsUnique_endsIn files current
  have hnearest := endsIn_iff_nearest.mp hends
  constructor
  · intro h dir hdir
    cases hentry : entryIn? files last with
    | none => exact hnearest.forall_none hentry hdir
    | some entry =>
        rw [load_none_of_found hnearest hentry, loadFile_eq_iff hentry] at h
        cases h.of_ok.2
  · intro h
    exact load_none_of_missing hnearest (h last hnearest.above)

theorem load_none_congr {others : FileSystem} (h : Nearest files current last)
    (hothers : ∀ dir, dir <+: current → last.length ≤ dir.length →
      entryIn? others dir = entryIn? files dir) :
    format.load others current none = format.load files current none := by
  have hlast := hothers last h.above (Nat.le_refl _)
  have hnearest := h.congr hothers
  cases hentry : entryIn? files last with
  | none => rw [load_none_of_missing h hentry, load_none_of_missing hnearest (hlast.trans hentry)]
  | some entry =>
      rw [load_none_of_found h hentry, load_none_of_found hnearest (hlast.trans hentry),
        loadFile_eq_iff (hlast.trans hentry), ← loadFile_eq_iff hentry]

theorem load_eq_ok {request : Option String} {config : Config}
    (h : format.load files current request = .ok config) :
    config.Valid ∧ (∀ path, request = some path → config.path = some path) ∧
      (request = none → ∀ last, Nearest files current last →
        config.path = (entryIn? files last).map fun _ => pathIn last) := by
  cases request with
  | some path =>
      cases hentry : files.lookUp current path with
      | none =>
          rw [load_some_of_missing hentry] at h
          cases h
      | some entry =>
          rw [load_some_of_found hentry, loadFile_eq_iff hentry] at h
          obtain ⟨hvalid, hpath⟩ := h.of_ok
          refine ⟨hvalid, ?_, nofun⟩
          intro other hother
          rw [hpath, hother]
  | none =>
      obtain ⟨last, hends, hunique⟩ := existsUnique_endsIn files current
      have hnearest := endsIn_iff_nearest.mp hends
      have hlast (other : Location) (hother : Nearest files current other) : other = last :=
        hunique other (endsIn_iff_nearest.mpr hother)
      cases hentry : entryIn? files last with
      | none =>
          rw [load_none_of_missing hnearest hentry] at h
          obtain rfl := Except.ok.inj h
          refine ⟨valid_default, nofun, ?_⟩
          intro _ other hother
          rw [hlast other hother, hentry]
          rfl
      | some entry =>
          rw [load_none_of_found hnearest hentry, loadFile_eq_iff hentry] at h
          obtain ⟨hvalid, hpath⟩ := h.of_ok
          refine ⟨hvalid, nofun, ?_⟩
          intro _ other hother
          rw [hlast other hother, hentry]
          exact hpath

/-- At a path that is asked for, nothing but what is found there counts, and only a lack of it is
reported as such. Otherwise the search goes outwards from the current directory, through what the
file system has in one directory after the other, and comes to an end in the nearest directory with
a configuration. What stands there decides, be it at fault, and what stands further out does not
count. All values are the usual ones exactly if no directory has a configuration. Whatever is loaded
is valid, declares its platforms and tells the path that was used, if any. -/
theorem load_uses_nearest (format : ConfigFormat) (files : FileSystem) (current : Location) :
    (∀ path name, format.load files current (some path) = .error (.notFound name) ↔
      name = path ∧ files.lookUp current path = none) ∧
    (∀ path entry outcome, files.lookUp current path = some entry →
      (format.load files current (some path) = outcome ↔ Reads format path entry outcome)) ∧
    (∀ dir, (∀ name ∈ dir, Location.IsName name) →
      (∀ above, above <+: dir → files.isDirectory above) →
      (pathIn dir).utf8ByteSize ≤ FileSystem.pathLimit →
      entryIn? files dir = files (dir ++ ["docforge.toml"])) ∧
    (∃! last, EndsIn files current last) ∧
    (∀ last, EndsIn files current last ↔ Nearest files current last) ∧
    (∀ last entry outcome, Nearest files current last → entryIn? files last = some entry →
      (format.load files current none = outcome ↔ Reads format (pathIn last) entry outcome)) ∧
    (∀ (others : FileSystem) last, Nearest files current last →
      (∀ dir, dir <+: current → last.length ≤ dir.length →
        entryIn? others dir = entryIn? files dir) →
      format.load others current none = format.load files current none) ∧
    (format.load files current none = .ok {} ↔
      ∀ dir, dir <+: current → entryIn? files dir = none) ∧
    ∀ request config, format.load files current request = .ok config →
      config.validate = .ok () ∧ (∃ platforms, config.platformData = .ok platforms) ∧
      (∀ path, request = some path → config.path = some path) ∧
      (request = none → ∀ last, Nearest files current last →
        config.path = (entryIn? files last).map fun _ => pathIn last) := by
  refine ⟨fun path name => load_some_eq_notFound_iff, ?_, fun dir => entryIn?_of_directories,
    existsUnique_endsIn files current, fun last => endsIn_iff_nearest, ?_,
    fun others last => load_none_congr, load_none_eq_default_iff, ?_⟩
  · intro path entry outcome hentry
    rw [load_some_of_found hentry, loadFile_eq_iff hentry]
  · intro last entry outcome hnearest hentry
    rw [load_none_of_found hnearest hentry, loadFile_eq_iff hentry]
  · intro request config h
    obtain ⟨hvalid, hpaths⟩ := load_eq_ok h
    obtain ⟨platforms, _, hplatforms, _⟩ := platformData_eq_ok hvalid
    exact ⟨validate_eq_ok_iff.mpr hvalid, ⟨platforms, hplatforms⟩, hpaths⟩

/-- A format in which no texts but two are well-formed. -/
def sample : ConfigFormat := fun text =>
  if text = "[content]\nlist_separator = \"; \"" then some { content := { listSeparator := "; " } }
  else if text = "[merge]\nstrategies = []" then some { merge := { strategies := [] } }
  else none

def sampleFiles : FileSystem := FileSystem.ofEntries
  [(["docforge.toml"], .file "[content]\nlist_separator = \"; \"".toUTF8),
    (["broken", "docforge.toml"], .file "[".toUTF8),
    (["idle", "docforge.toml"], .file "[merge]\nstrategies = []".toUTF8),
    (["sealed", "docforge.toml"], .locked),
    (["inner"], .directory)]

theorem load_uses_nearest_sample :
    sample.load sampleFiles ["sealed"] (some "../idle/docforge.toml") =
      .error (.invalid .noStrategies) ∧
    sample.load sampleFiles ["sealed"] none = .error .unreadable ∧
    sample.load sampleFiles ["broken"] none = .error .malformed ∧
    sample.load sampleFiles ["inner"] none =
      .ok { content := { listSeparator := "; " }, path := some "/docforge.toml" } := by
  have hidle : FirstFault { merge := { strategies := [] } } (.invalid .noStrategies) :=
    .noStrategies PlatformEntry.noneOffends_nil rfl
  have hvalid : ({ content := { listSeparator := "; " } } : Config).Valid :=
    ⟨valid_default.1, valid_default.2, valid_default.3, valid_default.4⟩
  have hsealed : Nearest sampleFiles ["sealed"] ["sealed"] := nearest_of_found nofun
  have hbroken : Nearest sampleFiles ["broken"] ["broken"] := nearest_of_found nofun
  have hnone : entryIn? sampleFiles ([] ++ ["inner"]) = none := rfl
  have hinner : Nearest sampleFiles ([] ++ ["inner"]) [] := by
    rw [nearest_append_singleton_iff, if_pos hnone, nearest_root_iff]
  refine ⟨?_, ?_, ?_, ?_⟩
  · obtain ⟨_, hpath, _⟩ := load_uses_nearest sample sampleFiles ["sealed"]
    exact (hpath _ _ _ rfl).mpr (.invalid rfl hidle)
  · obtain ⟨_, _, _, _, _, hnearest, _⟩ := load_uses_nearest sample sampleFiles ["sealed"]
    exact (hnearest _ _ _ hsealed rfl).mpr .locked
  · obtain ⟨_, _, _, _, _, hnearest, _⟩ := load_uses_nearest sample sampleFiles ["broken"]
    exact (hnearest _ _ _ hbroken rfl).mpr (.malformed rfl)
  · obtain ⟨_, _, _, _, _, hnearest, _⟩ := load_uses_nearest sample sampleFiles ["inner"]
    exact (hnearest _ _ _ hinner rfl).mpr (.valid rfl hvalid)

end ConfigFormat

end DocPages
