import DocPages.Content.Written
import DocPages.Proofs.Content.Erasure
import DocPages.Proofs.Json

namespace DocPages

open Json

section values

theorem same_array_map_iff_eq {α : Type} {write : α → Json} {as bs : List α}
    (h : ∀ a b, Same (write a) (write b) ↔ a = b) :
    Same (array (as.map write)) (array (bs.map write)) ↔ as = bs := by
  have hview : Same (array (as.map write)) (array (bs.map write)) ↔ as.map id = bs.map id :=
    same_array_map_iff fun a _ b => h a b
  rwa [List.map_id, List.map_id] at hview

theorem Dri.same_toJson_iff {a b : Dri} : Same a.toJson b.toJson ↔ a = b := by
  rw [toJson, toJson, same_object_iff (by rfl) (by simp)]
  simp [Dri.ext_iff]

theorem Kind.same_toJson_iff {a b : Kind} : Same a.toJson b.toJson ↔ a = b := by
  cases a <;> cases b <;> simp [toJson, name, same_object_iff]

theorem Style.same_toJson_iff {a b : Style} : Same a.toJson b.toJson ↔ a = b := by
  cases a <;> cases b <;> simp [toJson, name, same_object_iff]

theorem PlatformData.same_toJson_iff {a b : PlatformData} : Same a.toJson b.toJson ↔ a = b := by
  have hkey : a.platform.key = b.platform.key ↔ a.platform = b.platform :=
    ⟨Platform.eq_of_key_eq, congrArg Platform.key⟩
  have htargets : Same (array (a.targets.map string)) (array (b.targets.map string)) ↔
      a.targets = b.targets := same_array_map_iff_eq fun _ _ => same_string_iff
  rw [toJson, toJson, same_object_iff (by rfl) (by simp)]
  simp [PlatformData.ext_iff, hkey, htargets]

theorem OrderedSet.same_map_toList_iff {α : Type} [Ord α] {write : α → Json} {a b : OrderedSet α}
    (h : ∀ x y, Same (write x) (write y) ↔ x = y) :
    Same (array (a.toList.map write)) (array (b.toList.map write)) ↔ a = b := by
  rw [same_array_map_iff_eq h, Keyed.ext_iff]

theorem PlatformSet.same_toJson_iff {a b : PlatformSet} :
    Same (PlatformSet.toJson a) (PlatformSet.toJson b) ↔ a = b :=
  OrderedSet.same_map_toList_iff fun _ _ => PlatformData.same_toJson_iff

theorem Identity.same_toJson_iff {a b : Identity} : Same a.toJson b.toJson ↔ a = b := by
  have hdris : Same (array (a.dris.toList.map Dri.toJson)) (array (b.dris.toList.map Dri.toJson)) ↔
      a.dris = b.dris := OrderedSet.same_map_toList_iff fun _ _ => Dri.same_toJson_iff
  obtain ⟨dris, kind⟩ := a
  obtain ⟨dris', kind'⟩ := b
  rw [toJson, toJson, same_object_iff (by rfl) (by simp)]
  simp [hdris, Kind.same_toJson_iff]

theorem Dri.unambiguous_toJson (dri : Dri) : dri.toJson.Unambiguous := by
  simp [toJson, unambiguous_object_iff]

theorem Kind.unambiguous_toJson (kind : Kind) : kind.toJson.Unambiguous := by
  cases kind <;> simp [toJson, unambiguous_object_iff]

theorem Style.unambiguous_toJson (style : Style) : style.toJson.Unambiguous := by
  cases style <;> simp [toJson, unambiguous_object_iff]

theorem PlatformData.unambiguous_toJson (data : PlatformData) : data.toJson.Unambiguous := by
  simp [toJson, unambiguous_object_iff]

theorem PlatformSet.unambiguous_toJson (platforms : PlatformSet) :
    (PlatformSet.toJson platforms).Unambiguous := by
  simp [toJson, PlatformData.unambiguous_toJson]

end values

variable [PropertyFamily]

theorem Attrs.same_toMembers_iff {a b : Attrs} :
    SameValues a.toMembers b.toMembers ↔ a.erase .extra = b.erase .extra := by
  have hstyles : Same (array (a.styles.toList.map Style.toJson))
      (array (b.styles.toList.map Style.toJson)) ↔ a.styles = b.styles :=
    OrderedSet.same_map_toList_iff fun _ _ => Style.same_toJson_iff
  simp [toMembers, Identity.same_toJson_iff, PlatformSet.same_toJson_iff, hstyles, Attrs.erase,
    Scope.erase, Attrs.ext_iff, Attrs.identity]
  tauto

theorem Attrs.unambiguous_toMembers (attrs : Attrs) : UnambiguousValues attrs.toMembers := by
  simp [toMembers, Identity.toJson, unambiguous_object_iff, Dri.unambiguous_toJson,
    Kind.unambiguous_toJson, PlatformSet.unambiguous_toJson, Style.unambiguous_toJson]

/-- A slot that may be empty is written as its group, or as null. -/
def slotToJson : Option (GroupOf Json) → Json
  | none => null
  | some group => group.toJson

theorem InstanceOf.toMembers_eq (variant : InstanceOf Json) : variant.toMembers =
    [("before", slotToJson variant.before), ("divergent", variant.divergent.toJson),
      ("after", slotToJson variant.after)] ++ variant.attrs.toMembers := rfl

theorem GroupOf.nodup_keys_toMembers (group : GroupOf Json) :
    (group.toMembers.map Prod.fst).Nodup := by
  simp [toMembers, Attrs.toMembers]

theorem InstanceOf.nodup_keys_toMembers (variant : InstanceOf Json) :
    (variant.toMembers.map Prod.fst).Nodup := by
  simp [toMembers_eq, Attrs.toMembers]

namespace Layer

/-- All members of a node. -/
def members (layer : Layer Json) : List (String × Json) :=
  ("type", string layer.typeName) :: layer.toMembers

theorem toJson_eq (layer : Layer Json) : layer.toJson = object layer.members := rfl

theorem nodup_keys_members (layer : Layer Json) : (layer.members.map Prod.fst).Nodup := by
  cases layer <;>
    simp [members, toMembers, GroupOf.toMembers, InstanceOf.toMembers_eq, Attrs.toMembers]

theorem keys_members_eq {a b : Layer Json} (h : a.typeName = b.typeName) :
    a.members.map Prod.fst = b.members.map Prod.fst := by
  cases a <;> cases b <;> first | rfl | simp [typeName] at h

theorem same_toJson_iff {a b : Layer Json} :
    Same a.toJson b.toJson ↔ a.typeName = b.typeName ∧ SameValues a.toMembers b.toMembers := by
  rw [toJson_eq, toJson_eq]
  constructor
  · intro h
    -- the types come first: only layers of one type are known to list the same keys
    have htype : a.typeName = b.typeName := same_string_iff.mp
      (same_member h (nodup_keys_members b) List.mem_cons_self List.mem_cons_self)
    rw [same_object_iff (keys_members_eq htype) (nodup_keys_members a)] at h
    exact ⟨htype, (sameValues_cons.mp h).2⟩
  · rintro ⟨htype, hvalues⟩
    rw [same_object_iff (keys_members_eq htype) (nodup_keys_members a)]
    exact sameValues_cons.mpr ⟨same_string_iff.mpr htype, hvalues⟩

end Layer

section layers

variable {ν μ : Type} {write : ν → Json} {view : ν → μ}

theorem GroupOf.same_toMembers_map_iff {a b : GroupOf ν}
    (h : ∀ m ∈ a.children, ∀ n, Same (write m) (write n) ↔ view m = view n) :
    SameValues (a.map write).toMembers (b.map write).toMembers ↔
      (a.map view).erase .extra = (b.map view).erase .extra := by
  simp [GroupOf.toMembers, GroupOf.map, GroupOf.erase, same_array_map_iff h,
    Attrs.same_toMembers_iff]

theorem GroupOf.same_toJson_map_iff {a b : GroupOf ν}
    (h : ∀ m ∈ a.children, ∀ n, Same (write m) (write n) ↔ view m = view n) :
    Same (a.map write).toJson (b.map write).toJson ↔
      (a.map view).erase .extra = (b.map view).erase .extra := by
  rw [GroupOf.toJson, GroupOf.toJson, same_object_iff (by rfl) (GroupOf.nodup_keys_toMembers _)]
  exact GroupOf.same_toMembers_map_iff h

theorem same_slotToJson_map_iff {a b : Option (GroupOf ν)}
    (h : ∀ g ∈ a, ∀ m ∈ g.children, ∀ n, Same (write m) (write n) ↔ view m = view n) :
    Same (slotToJson (a.map (GroupOf.map write))) (slotToJson (b.map (GroupOf.map write))) ↔
      (a.map (GroupOf.map view)).map (GroupOf.erase .extra) =
        (b.map (GroupOf.map view)).map (GroupOf.erase .extra) := by
  cases a with
  | none =>
      cases b with
      | none => exact iff_of_true .null rfl
      | some b => exact iff_of_false nofun nofun
  | some a =>
      cases b with
      | none => exact iff_of_false nofun nofun
      | some b => simpa [slotToJson] using GroupOf.same_toJson_map_iff (h a rfl)

theorem InstanceOf.same_toMembers_map_iff {a b : InstanceOf ν}
    (h : ∀ m ∈ a.slots.flatMap GroupOf.children, ∀ n,
      Same (write m) (write n) ↔ view m = view n) :
    SameValues (a.map write).toMembers (b.map write).toMembers ↔
      (a.map view).erase .extra = (b.map view).erase .extra := by
  obtain ⟨hbefore, hdivergent, hafter⟩ := InstanceOf.forall_mem_slots.mp h
  have hbefore' := @same_slotToJson_map_iff _ _ _ write view a.before b.before hbefore
  have hdivergent' := @GroupOf.same_toJson_map_iff _ _ _ write view _ b.divergent hdivergent
  have hafter' := @same_slotToJson_map_iff _ _ _ write view a.after b.after hafter
  simp [InstanceOf.toMembers_eq, InstanceOf.map, InstanceOf.erase, hbefore', hdivergent', hafter',
    Attrs.same_toMembers_iff]

theorem InstanceOf.same_object_map_iff {a b : InstanceOf ν}
    (h : ∀ m ∈ a.slots.flatMap GroupOf.children, ∀ n,
      Same (write m) (write n) ↔ view m = view n) :
    Same (object (a.map write).toMembers) (object (b.map write).toMembers) ↔
      (a.map view).erase .extra = (b.map view).erase .extra := by
  rw [same_object_iff (by rfl) (InstanceOf.nodup_keys_toMembers _)]
  exact InstanceOf.same_toMembers_map_iff h

theorem Layer.same_toJson_map_iff {a b : Layer ν}
    (h : ∀ m ∈ a.nodes, ∀ n, Same (write m) (write n) ↔ view m = view n) :
    Same (a.map write).toJson (b.map write).toJson ↔
      (a.map view).erase .extra = (b.map view).erase .extra := by
  have hattrs := @Attrs.same_toMembers_iff _
  rw [Layer.same_toJson_iff]
  cases a with
  | text s attrs => cases b <;> simp [Layer.map, typeName, toMembers, Layer.erase, hattrs]
  | lineBreak attrs => cases b <;> simp [Layer.map, typeName, toMembers, Layer.erase, hattrs]
  | header level g =>
      have hgroup := fun found => @GroupOf.same_toJson_map_iff _ _ _ write view g found h
      have hlevel (found : UInt8) : (level.toNat : Int) = found.toNat ↔ level = found :=
        Int.natCast_inj.trans UInt8.toNat_inj
      cases b <;> simp [Layer.map, typeName, toMembers, Layer.erase, hgroup, hlevel]
  | code children language block attrs =>
      have hchildren := fun found => @same_array_map_iff _ _ write view children found h
      cases b <;> simp [Layer.map, typeName, toMembers, Layer.erase, hattrs, hchildren]
  | group g =>
      have hgroup := fun found => @GroupOf.same_toMembers_map_iff _ _ _ write view g found h
      cases b <;> simp [Layer.map, typeName, toMembers, Layer.erase, hgroup]
  | table cells rows attrs =>
      obtain ⟨hcells, hrows⟩ := List.forall_mem_append.mp h
      rw [List.forall_mem_flatMap] at hrows
      have hcells' := fun found => @same_array_map_iff _ _ write view cells found hcells
      have hrows' := fun found => @same_array_map_iff _ _ (GroupOf.toJson ∘ GroupOf.map write)
        (GroupOf.erase .extra ∘ GroupOf.map view) rows found fun row hrow _ =>
          GroupOf.same_toJson_map_iff (hrows row hrow)
      cases b <;> simp [Layer.map, typeName, toMembers, Layer.erase, hattrs, hcells', hrows']
  | list children ordered attrs =>
      have hchildren := fun found => @same_array_map_iff _ _ write view children found h
      cases b <;> simp [Layer.map, typeName, toMembers, Layer.erase, hattrs, hchildren]
  | driLink children address attrs =>
      have hchildren := fun found => @same_array_map_iff _ _ write view children found h
      cases b <;> simp [Layer.map, typeName, toMembers, Layer.erase, hattrs, hchildren,
        Dri.same_toJson_iff]
  | resolvedLink children address attrs =>
      have hchildren := fun found => @same_array_map_iff _ _ write view children found h
      cases b <;> simp [Layer.map, typeName, toMembers, Layer.erase, hattrs, hchildren]
  | platformHinted inner platforms =>
      cases b <;> simp [Layer.map, typeName, toMembers, Layer.erase, PlatformSet.same_toJson_iff,
        h inner (List.mem_singleton_self _), PlatformSet.erase, Scope.erase]
  | divergentGroup instances attrs =>
      rw [nodes, List.forall_mem_flatMap] at h
      have hinstances := fun found => @same_array_map_iff _ _
        ((fun written : InstanceOf Json => object written.toMembers) ∘ InstanceOf.map write)
        (InstanceOf.erase .extra ∘ InstanceOf.map view) instances found
          fun variant hvariant _ => InstanceOf.same_object_map_iff (h variant hvariant)
      cases b <;> simp [Layer.map, typeName, toMembers, Layer.erase, hattrs, hinstances]
  | divergentInstance variant =>
      have hvariant := fun found =>
        @InstanceOf.same_toMembers_map_iff _ _ _ write view variant found h
      cases b <;> simp [Layer.map, typeName, toMembers, Layer.erase, hvariant]

end layers

theorem GroupOf.unambiguous_toMembers {group : GroupOf Json}
    (h : ∀ value ∈ group.children, value.Unambiguous) : UnambiguousValues group.toMembers := by
  simpa [toMembers, Attrs.unambiguous_toMembers] using h

theorem GroupOf.unambiguous_toJson {group : GroupOf Json}
    (h : ∀ value ∈ group.children, value.Unambiguous) : group.toJson.Unambiguous :=
  unambiguous_object_iff.mpr ⟨group.nodup_keys_toMembers, group.unambiguous_toMembers h⟩

theorem unambiguous_slotToJson {slot : Option (GroupOf Json)}
    (h : ∀ g ∈ slot, ∀ value ∈ g.children, value.Unambiguous) :
    (slotToJson slot).Unambiguous := by
  cases slot with
  | none => exact .null
  | some group => exact group.unambiguous_toJson (h group rfl)

theorem InstanceOf.unambiguous_toMembers {variant : InstanceOf Json}
    (h : ∀ value ∈ variant.slots.flatMap GroupOf.children, value.Unambiguous) :
    UnambiguousValues variant.toMembers := by
  obtain ⟨hbefore, hdivergent, hafter⟩ := InstanceOf.forall_mem_slots.mp h
  simp [toMembers_eq, unambiguous_slotToJson hbefore, GroupOf.unambiguous_toJson hdivergent,
    unambiguous_slotToJson hafter, Attrs.unambiguous_toMembers]

theorem Layer.unambiguous_toMembers {layer : Layer Json}
    (h : ∀ value ∈ layer.nodes, value.Unambiguous) : UnambiguousValues layer.toMembers := by
  have hattrs := Attrs.unambiguous_toMembers
  cases layer with
  | text s attrs => simp [toMembers, hattrs]
  | lineBreak attrs => exact hattrs attrs
  | header level g => simp [toMembers, g.unambiguous_toJson h]
  | code children language block attrs => simpa [toMembers, nodes, hattrs] using h
  | group g => exact g.unambiguous_toMembers h
  | table cells rows attrs =>
      obtain ⟨hcells, hrows⟩ := List.forall_mem_append.mp h
      rw [List.forall_mem_flatMap] at hrows
      have hrows' : ∀ row ∈ rows, row.toJson.Unambiguous := fun row hrow =>
        row.unambiguous_toJson (hrows row hrow)
      simpa [toMembers, hattrs] using ⟨hcells, hrows'⟩
  | list children ordered attrs => simpa [toMembers, nodes, hattrs] using h
  | driLink children address attrs =>
      simpa [toMembers, nodes, hattrs, Dri.unambiguous_toJson] using h
  | resolvedLink children address attrs => simpa [toMembers, nodes, hattrs] using h
  | platformHinted inner platforms =>
      simpa [toMembers, PlatformSet.unambiguous_toJson] using h inner (List.mem_singleton_self _)
  | divergentGroup instances attrs =>
      rw [nodes, List.forall_mem_flatMap] at h
      have hinstances : ∀ variant ∈ instances, (object variant.toMembers).Unambiguous :=
        fun variant hvariant => unambiguous_object_iff.mpr
          ⟨variant.nodup_keys_toMembers, variant.unambiguous_toMembers (h variant hvariant)⟩
      simpa [toMembers, hattrs] using hinstances
  | divergentInstance variant => exact variant.unambiguous_toMembers h

theorem Node.unambiguous_toJson (node : Node) : node.toJson.Unambiguous := by
  induction node using Node.induction with
  | h layer ih =>
      rw [toJson, fold_mk, Layer.toJson_eq, unambiguous_object_iff]
      refine ⟨Layer.nodup_keys_members _, unambiguousValues_cons.mpr
        ⟨.string _, Layer.unambiguous_toMembers ?_⟩⟩
      rw [Layer.nodes_map]
      exact List.forall_mem_map.mpr ih

theorem Node.same_toJson_iff (a b : Node) :
    Same a.toJson b.toJson ↔ a.erase .extra = b.erase .extra := by
  induction a using Node.induction generalizing b with
  | h layer ih =>
      obtain ⟨other⟩ := b
      rw [toJson, fold_mk, fold_mk, Node.erase, fold_mk, fold_mk, Node.mk.injEq]
      exact Layer.same_toJson_map_iff ih

/-- Trees are written alike exactly if they become equal once the properties of every node are
emptied, and no object that is written names a member twice. -/
theorem Node.toJson_faithful (a b : Node) :
    a.toJson.Unambiguous ∧ b.toJson.Unambiguous ∧
      (Same a.toJson b.toJson ↔ a.erase .extra = b.erase .extra) :=
  ⟨a.unambiguous_toJson, b.unambiguous_toJson, Node.same_toJson_iff a b⟩

end DocPages
