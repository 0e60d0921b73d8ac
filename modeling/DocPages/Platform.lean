import DocPages.Keyed

namespace DocPages

open Std

/-- Compilation or runtime family. -/
inductive Platform where
  | jvm
  | js
  | native
  | common
deriving DecidableEq, Inhabited, Repr

/-- A platform key that names no family. -/
structure UnknownPlatform where
  key : String
deriving DecidableEq, Repr

def UnknownPlatform.message (error : UnknownPlatform) : String :=
  "unknown platform `" ++ error.key ++ "`"

namespace Platform

/-- The lower-case key used in configurations. -/
def key : Platform → String
  | jvm => "jvm"
  | js => "js"
  | native => "native"
  | common => "common"

theorem eq_of_key_eq {a b : Platform} (h : a.key = b.key) : a = b := by
  cases a <;> cases b <;> first | rfl | exact absurd h (by decide)

def all : List Platform := [jvm, js, native, common]

/-- The family with a given key; ASCII letters of the key may have either case. -/
def ofKey (key : String) : Except UnknownPlatform Platform :=
  match all.find? (·.key == key.map Char.toLower) with
  | some platform => .ok platform
  | none => .error ⟨key⟩

/-- Families are ordered jvm, js, native, common. -/
def order : Platform → Platform → Ordering := compareOn Platform.ctorIdx

instance : Ord Platform := ⟨order⟩

instance : TransOrd Platform := inferInstanceAs (TransCmp (compareOn Platform.ctorIdx))

instance : LawfulEqOrd Platform where
  compare_self := ReflCmp.compare_self
  eq_of_compare {a b} h := by cases a <;> cases b <;> first | rfl | cases h

end Platform

/-- One source set that documentation applies to. -/
@[ext]
structure PlatformData where
  name : String
  platform : Platform
  targets : List String := [platform.key]
deriving DecidableEq, Inhabited, Repr

namespace PlatformData

/-- The order of platform data: by name, then family, then targets. -/
def order : PlatformData → PlatformData → Ordering :=
  compareLex (compareOn name) <| compareLex (compareOn platform) (compareOn targets)

instance : Ord PlatformData := ⟨order⟩

instance : TransOrd PlatformData := inferInstanceAs (TransCmp (compareLex _ _))

instance : LawfulEqOrd PlatformData where
  compare_self := ReflCmp.compare_self
  eq_of_compare {a b} h := by
    change order a b = .eq at h
    simp only [order, compareLex_eq_eq, compareOn, Std.compare_eq_iff_eq] at h
    exact PlatformData.ext h.1 h.2.1 h.2.2

end PlatformData

abbrev PlatformSet := OrderedSet PlatformData

/-- A value for some of the platforms. -/
abbrev PlatformDependent (β : Type) := OrderedMap PlatformData β

namespace PlatformDependent

variable {β : Type}

/-- The map that holds, for each platform, the last value listed for it. -/
def ofList (entries : List (PlatformData × β)) : PlatformDependent β := Keyed.ofList entries

/-- Writes a value and gives back the one it replaces. -/
def insert (values : PlatformDependent β) (platform : PlatformData) (value : β) :
    Option β × PlatformDependent β :=
  (values.get? platform, Keyed.insert values (platform, value))

end PlatformDependent

end DocPages
