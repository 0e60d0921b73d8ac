import DocPages.Content.Attrs
import Mathlib.Data.List.Pairwise

/-!
The orders of identities, platforms, roles and styles.

Each order is described apart from the comparison that computes it, by rules for when one value
stands before another. The comparison is total and agrees with the rules, so a set is determined by
its elements: it is listed in one ascending sequence, whatever list it was made from.
-/

namespace DocPages

open Std

/-- What it means that values of a type are compared by the given rules, and that sets of them are
determined by their elements. -/
structure CanonicalOrder (α : Type) [Ord α] [TransOrd α] (before : α → α → Prop) : Prop where
  lt_iff (a b : α) : compare a b = .lt ↔ before a b
  eq_iff (a b : α) : compare a b = .eq ↔ a = b
  swap (a b : α) : compare b a = (compare a b).swap
  isLE_trans (a b c : α) : (compare a b).isLE → (compare b c).isLE → (compare a c).isLE
  toList_ofList_eq_iff (elements listing : List α) :
    (Keyed.ofList elements : OrderedSet α).toList = listing ↔
      listing.Pairwise before ∧ ∀ x, x ∈ listing ↔ x ∈ elements
  ofList_eq_iff (elements others : List α) :
    (Keyed.ofList elements : OrderedSet α) = Keyed.ofList others ↔
      ∀ x, x ∈ elements ↔ x ∈ others

theorem canonicalOrder_of_lt_iff {α : Type} [Ord α] [TransOrd α] [LawfulEqOrd α]
    {before : α → α → Prop} (h : ∀ a b : α, compare a b = .lt ↔ before a b) :
    CanonicalOrder α before where
  lt_iff := h
  eq_iff _ _ := Std.compare_eq_iff_eq
  swap _ _ := OrientedOrd.eq_swap
  isLE_trans _ _ _ := TransOrd.isLE_trans
  toList_ofList_eq_iff elements listing := by
    have hascending : Ascending id listing ↔ listing.Pairwise before := by
      simp only [Ascending, id, h]
    rw [Keyed.toList_eq_iff, hascending]
    simp only [OrderedSet.mem_ofList]
  ofList_eq_iff elements others := by
    constructor
    · intro heq x
      rw [← OrderedSet.mem_ofList, heq, OrderedSet.mem_ofList]
    · intro hsame
      apply Keyed.ext_mem
      intro x
      rw [OrderedSet.mem_ofList, OrderedSet.mem_ofList, hsame]

theorem compare_list_eq_lt_iff {α : Type} [Ord α] [LawfulEqOrd α] {before : α → α → Prop}
    (h : ∀ a b : α, compare a b = .lt ↔ before a b) (as bs : List α) :
    compare as bs = .lt ↔ List.Lex before as bs := by
  induction as generalizing bs with
  | nil =>
      cases bs with
      | nil => exact iff_of_false (by simp) List.not_lex_nil
      | cons b bs => exact iff_of_true List.compare_nil_cons List.Lex.nil
  | cons a as ih =>
      cases bs with
      | nil => exact iff_of_false (by simp) List.not_lex_nil
      | cons b bs =>
          rw [List.compare_cons_cons, Ordering.then_eq_lt, List.cons_lex_cons_iff, h, ih,
            Std.compare_eq_iff_eq]

/-- Texts are compared by code point. -/
def Text.Before (s t : String) : Prop :=
  List.Lex (fun c d => c.toNat < d.toNat) s.toList t.toList

theorem compare_text_eq_lt_iff (s t : String) : compare s t = .lt ↔ Text.Before s t :=
  compareOfLessAndEq_eq_lt

namespace Dri

/-- An absent segment stands before any present one, the empty text included. -/
inductive SegmentBefore : Option String → Option String → Prop
  | absent (t : String) : SegmentBefore none (some t)
  | present {s t : String} (h : Text.Before s t) : SegmentBefore (some s) (some t)

def segments (dri : Dri) : List (Option String) :=
  [dri.packageName, dri.classNames, dri.callable, dri.extra]

def Before (a b : Dri) : Prop := List.Lex SegmentBefore a.segments b.segments

theorem compare_segment_eq_lt_iff (s t : Option String) :
    compare s t = .lt ↔ SegmentBefore s t := by
  match s, t with
  | none, none => exact iff_of_false (by simp) nofun
  | none, some t => exact iff_of_true rfl (.absent t)
  | some s, none => exact iff_of_false nofun nofun
  | some s, some t =>
      constructor
      · intro h
        exact .present ((compare_text_eq_lt_iff s t).mp h)
      · rintro ⟨⟩
        rename_i h
        exact (compare_text_eq_lt_iff s t).mpr h

theorem compare_eq_compare_segments (a b : Dri) : compare a b = compare a.segments b.segments := by
  simp only [segments, List.compare_cons_cons, List.compare_nil_nil, Ordering.then_eq]
  rfl

theorem compare_eq_lt_iff (a b : Dri) : compare a b = .lt ↔ Before a b := by
  rw [compare_eq_compare_segments]
  exact compare_list_eq_lt_iff compare_segment_eq_lt_iff a.segments b.segments

end Dri

/-- Values in the order of a list of declared ones, and those contributed from outside after them
by name. -/
inductive DeclaredBefore {α : Type} (declared : List α) (custom : String → α) : α → α → Prop
  | declared {a b : α} (h : [a, b].Sublist declared) : DeclaredBefore declared custom a b
  | custom_last {a : α} (h : a ∈ declared) (name : String) :
      DeclaredBefore declared custom a (custom name)
  | custom {s t : String} (h : Text.Before s t) :
      DeclaredBefore declared custom (custom s) (custom t)

section declared

variable {α : Type} [Ord α] [TransOrd α] [LawfulEqOrd α]

theorem pair_sublist_of_compare_eq_lt {declared : List α} {a b : α}
    (hdeclared : declared.Pairwise fun a b => compare a b = .lt)
    (ha : a ∈ declared) (hb : b ∈ declared) (h : compare a b = .lt) :
    [a, b].Sublist declared := by
  induction declared with
  | nil => exact absurd ha List.not_mem_nil
  | cons c rest ih =>
      obtain ⟨hc, hrest⟩ := List.pairwise_cons.mp hdeclared
      rcases List.mem_cons.mp ha with rfl | harest
      · rcases List.mem_cons.mp hb with rfl | hbrest
        · simp at h
        · exact (List.singleton_sublist.mpr hbrest).cons_cons a
      · rcases List.mem_cons.mp hb with rfl | hbrest
        · exact absurd h (OrientedCmp.not_lt_of_lt (hc a harest))
        · exact (ih hrest harest hbrest).cons c

theorem compare_eq_lt_iff_declaredBefore (declared : List α) (custom : String → α)
    (hdeclared : declared.Pairwise fun a b => compare a b = .lt)
    (hlast : ∀ a ∈ declared, ∀ name, compare a (custom name) = .lt)
    (hcustom : ∀ s t, compare (custom s) (custom t) = compare s t)
    (hall : ∀ a, a ∈ declared ∨ ∃ name, a = custom name) (a b : α) :
    compare a b = .lt ↔ DeclaredBefore declared custom a b := by
  constructor
  · intro h
    rcases hall a with ha | ⟨s, rfl⟩
    · rcases hall b with hb | ⟨name, rfl⟩
      · exact .declared (pair_sublist_of_compare_eq_lt hdeclared ha hb h)
      · exact .custom_last ha name
    · rcases hall b with hb | ⟨t, rfl⟩
      · exact absurd h (OrientedCmp.not_lt_of_lt (hlast b hb s))
      · rw [hcustom, compare_text_eq_lt_iff] at h
        exact .custom h
  · rintro (h | ⟨ha, name⟩ | h)
    · exact List.pairwise_iff_forall_sublist.mp hdeclared h
    · exact hlast a ha name
    · rw [hcustom, compare_text_eq_lt_iff]
      exact h

end declared

namespace PlatformData

/-- Platforms are compared by name, within a name by family, and within a family by targets. -/
inductive Before (a b : PlatformData) : Prop
  | name (h : Text.Before a.name b.name)
  | platform (hname : a.name = b.name)
      (h : [a.platform, b.platform].Sublist [.jvm, .js, .native, .common])
  | targets (hname : a.name = b.name) (hplatform : a.platform = b.platform)
      (h : List.Lex Text.Before a.targets b.targets)

theorem compare_platform_eq_lt_iff (a b : Platform) :
    compare a b = .lt ↔ [a, b].Sublist [.jvm, .js, .native, .common] := by
  cases a <;> cases b <;> decide

theorem compare_eq_lt_iff (a b : PlatformData) : compare a b = .lt ↔ Before a b := by
  have hcompare : compare a b = (compare a.name b.name).then
      ((compare a.platform b.platform).then (compare a.targets b.targets)) := rfl
  rw [hcompare, Ordering.then_eq_lt, Ordering.then_eq_lt, compare_text_eq_lt_iff,
    compare_platform_eq_lt_iff, compare_list_eq_lt_iff compare_text_eq_lt_iff,
    Std.compare_eq_iff_eq, Std.compare_eq_iff_eq]
  constructor
  · rintro (h | ⟨hname, h | ⟨hplatform, h⟩⟩)
    · exact .name h
    · exact .platform hname h
    · exact .targets hname hplatform h
  · rintro (h | ⟨hname, h⟩ | ⟨hname, hplatform, h⟩)
    · exact .inl h
    · exact .inr ⟨hname, .inl h⟩
    · exact .inr ⟨hname, .inr ⟨hplatform, h⟩⟩

end PlatformData

namespace Kind

def declared : List Kind :=
  [.main, .comment, .briefComment, .classlikes, .constructors, .functions, .properties, .packages,
    .symbol, .signature, .parameters, .modifiers, .annotations, .sample, .source, .empty]

theorem compare_eq_lt_iff (a b : Kind) :
    compare a b = .lt ↔ DeclaredBefore declared custom a b := by
  refine compare_eq_lt_iff_declaredBefore declared custom (by decide) ?_ (fun _ _ => rfl) ?_ a b
  · intro a ha name
    cases a with
    | custom => simp [declared] at ha
    | _ => rfl
  · intro a
    cases a with
    | custom name => exact .inr ⟨name, rfl⟩
    | _ => exact .inl (by decide)

end Kind

namespace Style

def declared : List Style :=
  [.bold, .italic, .strong, .strikethrough, .monospace, .paragraph, .block, .indented, .rowTitle,
    .tabbedContent, .withExtraAttributes]

theorem compare_eq_lt_iff (a b : Style) :
    compare a b = .lt ↔ DeclaredBefore declared custom a b := by
  refine compare_eq_lt_iff_declaredBefore declared custom (by decide) ?_ (fun _ _ => rfl) ?_ a b
  · intro a ha name
    cases a with
    | custom => simp [declared] at ha
    | _ => rfl
  · intro a
    cases a with
    | custom name => exact .inr ⟨name, rfl⟩
    | _ => exact .inl (by decide)

end Style

/-- Identities, platforms, roles and styles are totally ordered: identities segment by segment,
platforms by name, family and targets, roles and styles as they are declared. Sets of them are
determined by their elements. -/
theorem identities_canonicalOrder :
    CanonicalOrder Dri Dri.Before ∧ CanonicalOrder PlatformData PlatformData.Before ∧
      CanonicalOrder Kind (DeclaredBefore Kind.declared Kind.custom) ∧
      CanonicalOrder Style (DeclaredBefore Style.declared Style.custom) :=
  ⟨canonicalOrder_of_lt_iff Dri.compare_eq_lt_iff,
    canonicalOrder_of_lt_iff PlatformData.compare_eq_lt_iff,
    canonicalOrder_of_lt_iff Kind.compare_eq_lt_iff,
    canonicalOrder_of_lt_iff Style.compare_eq_lt_iff⟩

/-- No class name stands before the empty one. -/
example :
    let top : Dri := .package "p"
    let unnamed : Dri := { top with classNames := some "" }
    let method : Dri := { top with callable := some "run" }
    (Keyed.ofList [unnamed, method, top, unnamed] : OrderedSet Dri).toList =
      [top, method, unnamed] := by
  decide +kernel

end DocPages
