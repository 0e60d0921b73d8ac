import DocPages.FileSystem
import Mathlib.Data.List.Basic

namespace DocPages

theorem fromUTF8?_eq_some_iff {content : ByteArray} {text : String} :
    String.fromUTF8? content = some text ↔ text.toUTF8 = content := by
  constructor
  · intro h
    unfold String.fromUTF8? at h
    split at h
    · obtain rfl := Option.some.inj h
      rfl
    · cases h
  · rintro rfl
    exact dif_pos text.isValidUTF8

namespace Location

theorem upwards_append_singleton (dir : Location) (name : String) :
    upwards (dir ++ [name]) = (dir ++ [name]) :: upwards dir := by
  induction dir with
  | nil => rfl
  | cons first rest ih =>
      rw [List.cons_append, upwards, ih, List.map_cons, List.cons_append, upwards]

/-- What an entry of a directory may be called. -/
structure IsName (name : String) : Prop where
  ne_empty : name ≠ ""
  ne_dot : name ≠ "."
  ne_dots : name ≠ ".."
  no_slash : '/' ∉ name.toList

theorem step_of_isName {name : String} (h : IsName name) (place : Location) :
    place.step name = place ++ [name] := by
  simp only [step, h.ne_empty, h.ne_dot, h.ne_dots, or_self, if_false]

end Location

namespace FileSystem

open Location (IsName step_of_isName)

variable {files : FileSystem}

theorem toList_rooted (names : List String) :
    ("/" ++ "/".intercalate names).toList = '/' :: ['/'].intercalate (names.map String.toList) := by
  rw [String.toList_append, String.toList_intercalate]
  rfl

theorem partsOf_rooted {names : List String} (hne : names ≠ [])
    (hnames : ∀ name ∈ names, IsName name) :
    partsOf ("/" ++ "/".intercalate names) = "" :: names := by
  have hmap : names.map String.toList ≠ [] := by
    rwa [ne_eq, List.map_eq_nil_iff]
  have hroot : '/' :: ['/'].intercalate (names.map String.toList) =
      ['/'].intercalate ([] :: names.map String.toList) := by
    rw [List.intercalate_cons_of_ne_nil hmap]
    rfl
  have hslash : ∀ part ∈ [] :: names.map String.toList, '/' ∉ part := by
    rw [List.forall_mem_cons, List.forall_mem_map]
    exact ⟨List.not_mem_nil, fun name hname => (hnames name hname).no_slash⟩
  have hback : String.ofList ∘ String.toList = id := funext fun _ => String.ofList_toList
  rw [partsOf, toList_rooted, hroot, List.splitOn_intercalate '/' hslash (List.cons_ne_nil _ _),
    List.map_cons, List.map_map, hback, List.map_id, String.ofList_nil]

theorem resolve?_of_directories {place : Location} {names : List String} {last : String}
    (hnames : ∀ name ∈ names ++ [last], IsName name)
    (habove : ∀ above, above <+: names → files.isDirectory (place ++ above)) :
    (files.resolve? place (names ++ [last])).bind files = files (place ++ names ++ [last]) := by
  induction names generalizing place with
  | nil =>
      have hplace : files.isDirectory place = true := by
        simpa using habove [] List.prefix_rfl
      have hlast : IsName last := hnames last (List.mem_singleton_self last)
      simp only [List.nil_append, List.append_nil, resolve?, hplace, if_true, step_of_isName hlast]
      cases hentry : files (place ++ [last]) with
      | none => rfl
      | some entry => exact hentry
  | cons name rest ih =>
      have hplace : files.isDirectory place = true := by
        simpa using habove [] List.nil_prefix
      have hname : IsName name := hnames name List.mem_cons_self
      have hrest : ∀ other ∈ rest ++ [last], IsName other := by
        intro other hother
        exact hnames other (List.mem_cons_of_mem name hother)
      have hbelow : ∀ above, above <+: rest → files.isDirectory (place ++ [name] ++ above) := by
        intro above hwithin
        rw [← List.append_cons]
        exact habove (name :: above) (List.cons_prefix_cons.mpr ⟨rfl, hwithin⟩)
      rw [List.cons_append, resolve?, if_pos hplace, step_of_isName hname, ih hrest hbelow,
        ← List.append_cons]

/-- A path down from the root leads to what stands there, if it goes through directories alone and
is not too long. -/
theorem lookUp_rooted {names : List String} {last : String} (current : Location)
    (hnames : ∀ name ∈ names ++ [last], IsName name)
    (habove : ∀ above, above <+: names → files.isDirectory above)
    (hlimit : ("/" ++ "/".intercalate (names ++ [last])).utf8ByteSize ≤ pathLimit) :
    files.lookUp current ("/" ++ "/".intercalate (names ++ [last])) = files (names ++ [last]) := by
  have hne : names ++ [last] ≠ [] := List.append_ne_nil_of_right_ne_nil names (List.cons_ne_nil _ _)
  have hhead : ("/" ++ "/".intercalate (names ++ [last])).toList.head? = some '/' := by
    rw [toList_rooted, List.head?_cons]
  have hempty : ("/" ++ "/".intercalate (names ++ [last])).isEmpty = false := by
    rw [← Bool.not_eq_true, String.isEmpty_iff, ← String.toList_eq_nil_iff, toList_rooted]
    exact List.cons_ne_nil _ _
  have hroot : files.isDirectory [] = true := habove [] List.nil_prefix
  have hshort : ¬ pathLimit < ("/" ++ "/".intercalate (names ++ [last])).utf8ByteSize :=
    Nat.not_lt.mpr hlimit
  simp only [lookUp, hempty, hshort, decide_false, Bool.or_false, Bool.false_eq_true, if_false,
    hhead, if_true, partsOf_rooted hne hnames, resolve?, hroot]
  exact resolve?_of_directories hnames habove

end FileSystem

end DocPages
