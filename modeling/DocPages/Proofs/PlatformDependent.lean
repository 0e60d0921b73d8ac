import DocPages.Platform
import DocPages.Proofs.Keyed

namespace DocPages

namespace PlatformDependent

variable {β : Type} {entries start writes : List (PlatformData × β)} {platform : PlatformData}
  {value : β}

/-- The map after some insertions in order. -/
def insertEach (values : PlatformDependent β) (writes : List (PlatformData × β)) :
    PlatformDependent β :=
  writes.foldl (fun values write => (values.insert write.1 write.2).2) values

/-- What some insertions give back in turn. -/
def replacedEach (values : PlatformDependent β) : List (PlatformData × β) → List (Option β)
  | [] => []
  | (platform, value) :: rest =>
      let (replaced, after) := values.insert platform value
      replaced :: after.replacedEach rest

/-- No later entry for a platform replaces this one. -/
def LastGiven (entries : List (PlatformData × β)) (platform : PlatformData) (value : β) : Prop :=
  ∃ front back, entries = front ++ (platform, value) :: back ∧ ∀ later ∈ back, later.1 ≠ platform

theorem insertEach_ofList (start writes : List (PlatformData × β)) :
    (ofList start).insertEach writes = ofList (start ++ writes) := by
  rw [ofList, ofList, Keyed.ofList, Keyed.ofList, Keyed.insertAll, Keyed.insertAll,
    List.foldl_append]
  rfl

theorem mem_ofList_iff : (platform, value) ∈ ofList entries ↔ LastGiven entries platform value := by
  rw [Keyed.mem_iff_find?, ofList, Keyed.find?_ofList, List.find?_eq_some_iff_append]
  simp only [beq_iff_eq, Std.compare_eq_iff_eq, true_and]
  constructor
  · rintro ⟨back, front, hreverse, hback⟩
    refine ⟨front.reverse, back.reverse, ?_, ?_⟩
    · rw [← List.reverse_reverse entries, hreverse, List.reverse_append, List.reverse_cons,
        List.append_assoc, List.singleton_append]
    · intro later hlater
      simpa using hback later (List.mem_reverse.mp hlater)
  · rintro ⟨front, back, rfl, hback⟩
    refine ⟨back.reverse, front.reverse, ?_, ?_⟩
    · rw [List.reverse_append, List.reverse_cons, List.append_assoc, List.singleton_append]
    · intro later hlater
      simpa using hback later (List.mem_reverse.mp hlater)

theorem ofList_congr {others : List (PlatformData × β)}
    (h : ∀ platform value, LastGiven entries platform value ↔ LastGiven others platform value) :
    ofList entries = ofList others := by
  apply Keyed.ext_mem
  rintro ⟨platform, value⟩
  rw [mem_ofList_iff, mem_ofList_iff, h]

theorem get?_insertEach_eq_some_iff :
    ((ofList start).insertEach writes).get? platform = some value ↔
      LastGiven (start ++ writes) platform value := by
  rw [← OrderedMap.mem_iff_get?, insertEach_ofList, mem_ofList_iff]

theorem get?_insertEach_eq_none_iff :
    ((ofList start).insertEach writes).get? platform = none ↔
      ∀ entry ∈ start ++ writes, entry.1 ≠ platform := by
  rw [insertEach_ofList, OrderedMap.get?, Option.map_eq_none_iff, ofList, Keyed.find?_ofList,
    List.find?_eq_none]
  simp only [List.mem_reverse, beq_iff_eq, Std.compare_eq_iff_eq, ne_eq]

/-- An insertion gives back what could be looked up just before it. -/
theorem replacedEach_eq (values : PlatformDependent β) (writes : List (PlatformData × β)) :
    values.replacedEach writes =
      writes.mapIdx fun i write => (values.insertEach (writes.take i)).get? write.1 := by
  induction writes generalizing values with
  | nil => rfl
  | cons write rest ih =>
      obtain ⟨platform, value⟩ := write
      rw [List.mapIdx_cons]
      exact congrArg (List.cons (values.get? platform)) (ih (values.insert platform value).2)

theorem toList_insertEach_eq_iff {listing : List (PlatformData × β)} :
    ((ofList start).insertEach writes).toList = listing ↔
      Ascending Prod.fst listing ∧
        ∀ platform value,
          (platform, value) ∈ listing ↔ LastGiven (start ++ writes) platform value := by
  rw [Keyed.toList_eq_iff, Prod.forall, insertEach_ofList]
  simp only [mem_ofList_iff]

/-- After any insertions into any map, a lookup gives the value that was written last for just this
platform, and each insertion gave back what a lookup would have given. The listing is the one in
strictly ascending order, the keys are the platforms that have a value, and there are as many as the
size says. Maps that were filled in whatever way are equal exactly if all lookups are, also under an
equality that the values bring along. -/
theorem insertEach_keeps_lastGiven [BEq β] (start writes : List (PlatformData × β)) :
    let values := (ofList start).insertEach writes
    (∀ platform value,
      values.get? platform = some value ↔ LastGiven (start ++ writes) platform value) ∧
    (∀ platform,
      values.get? platform = none ↔ ∀ entry ∈ start ++ writes, entry.1 ≠ platform) ∧
    (ofList start).replacedEach writes =
      writes.mapIdx (fun i write => ((ofList start).insertEach (writes.take i)).get? write.1) ∧
    (∀ listing, values.toList = listing ↔ Ascending Prod.fst listing ∧ ∀ platform value,
      (platform, value) ∈ listing ↔ LastGiven (start ++ writes) platform value) ∧
    (∀ platform, platform ∈ values.keys ↔ (values.get? platform).isSome) ∧
    {platform | (values.get? platform).isSome}.encard = values.size ∧
    ∀ otherStart otherWrites : List (PlatformData × β),
      let others := (ofList otherStart).insertEach otherWrites
      (values = others ↔ ∀ platform, values.get? platform = others.get? platform) ∧
      ((values.toList == others.toList) = true ↔
        ∀ platform, (values.get? platform == others.get? platform) = true) := by
  intro values
  refine ⟨fun _ _ => get?_insertEach_eq_some_iff, fun _ => get?_insertEach_eq_none_iff,
    replacedEach_eq _ writes, fun _ => toList_insertEach_eq_iff,
    fun _ => OrderedMap.mem_keys_iff, OrderedMap.encard_present values, ?_⟩
  intro otherStart otherWrites others
  refine ⟨⟨?_, OrderedMap.ext_get?⟩, OrderedMap.toList_beq_iff_get? values others⟩
  rintro h platform
  rw [h]

/-- Platforms that differ in their targets alone are kept apart. -/
example :
    let jvm (targets : List String) : PlatformData := ⟨"jvm", .jvm, targets⟩
    (ofList [(jvm ["8"], 1), (jvm ["8", "17"], 2), (jvm ["8"], 3)]).replacedEach
      [(jvm ["8"], 4), (jvm [], 5), (jvm ["8", "17"], 6)] = [some 3, none, some 2] := by
  decide +kernel

end PlatformDependent

end DocPages
