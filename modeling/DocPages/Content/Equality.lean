import DocPages.Content.Node

/-!
Equality of content trees is decidable.

Two trees are compared layer by layer. `Layer.agrees` settles one layer, given for each of its
nodes the test whether another node equals it.
-/

namespace DocPages

variable {ν : Type}

/-- Whether the members of a list pass the tests of another, one by one. -/
def passAll : List (ν → Bool) → List ν → Bool
  | [], [] => true
  | test :: tests, node :: nodes => test node && passAll tests nodes
  | _, _ => false

/-- Whether an optional value passes an optional test, where none asks for none. -/
def passOption : Option (ν → Bool) → Option ν → Bool
  | none, none => true
  | some test, some node => test node
  | _, _ => false

theorem passAll_map_iff {test : ν → ν → Bool} {as bs : List ν}
    (h : ∀ m ∈ as, ∀ n, test m n = true ↔ m = n) :
    passAll (as.map test) bs = true ↔ as = bs := by
  induction as generalizing bs with
  | nil => cases bs <;> simp [passAll]
  | cons m rest ih =>
      cases bs with
      | nil => simp [passAll]
      | cons n found =>
          rw [List.forall_mem_cons] at h
          simp [passAll, h.1, ih h.2]

theorem passOption_map_iff {test : ν → ν → Bool} {a b : Option ν}
    (h : ∀ m ∈ a, ∀ n, test m n = true ↔ m = n) :
    passOption (a.map test) b = true ↔ a = b := by
  cases a with
  | none => cases b <;> simp [passOption]
  | some m =>
      cases b with
      | none => simp [passOption]
      | some n => simp [passOption, h m rfl n]

variable [PropertyFamily]

def GroupOf.agrees (test : GroupOf (ν → Bool)) (group : GroupOf ν) : Bool :=
  passAll test.children group.children && test.attrs == group.attrs

def InstanceOf.agrees (test : InstanceOf (ν → Bool)) (variant : InstanceOf ν) : Bool :=
  passOption (test.before.map GroupOf.agrees) variant.before &&
    test.divergent.agrees variant.divergent &&
    passOption (test.after.map GroupOf.agrees) variant.after && test.attrs == variant.attrs

/-- Whether a layer is the one that the tests describe. -/
def Layer.agrees : Layer (ν → Bool) → Layer ν → Bool
  | text s attrs, text s' attrs' => s == s' && attrs == attrs'
  | lineBreak attrs, lineBreak attrs' => attrs == attrs'
  | header level g, header level' g' => level == level' && g.agrees g'
  | code children language block attrs, code children' language' block' attrs' =>
      passAll children children' && language == language' && block == block' && attrs == attrs'
  | group g, group g' => g.agrees g'
  | table cells rows attrs, table cells' rows' attrs' =>
      passAll cells cells' && passAll (rows.map GroupOf.agrees) rows' && attrs == attrs'
  | list children ordered attrs, list children' ordered' attrs' =>
      passAll children children' && ordered == ordered' && attrs == attrs'
  | driLink children address attrs, driLink children' address' attrs' =>
      passAll children children' && address == address' && attrs == attrs'
  | resolvedLink children address attrs, resolvedLink children' address' attrs' =>
      passAll children children' && address == address' && attrs == attrs'
  | platformHinted inner platforms, platformHinted inner' platforms' =>
      inner inner' && platforms == platforms'
  | divergentGroup instances attrs, divergentGroup instances' attrs' =>
      passAll (instances.map InstanceOf.agrees) instances' && attrs == attrs'
  | divergentInstance variant, divergentInstance variant' => variant.agrees variant'
  | _, _ => false

variable {test : ν → ν → Bool}

theorem GroupOf.agrees_map_iff {a b : GroupOf ν}
    (h : ∀ m ∈ a.children, ∀ n, test m n = true ↔ m = n) :
    (a.map test).agrees b = true ↔ a = b := by
  simp [GroupOf.agrees, GroupOf.map, passAll_map_iff h, GroupOf.ext_iff]

theorem InstanceOf.agrees_map_iff {a b : InstanceOf ν}
    (h : ∀ m ∈ a.slots.flatMap GroupOf.children, ∀ n, test m n = true ↔ m = n) :
    (a.map test).agrees b = true ↔ a = b := by
  obtain ⟨hbefore, hdivergent, hafter⟩ := InstanceOf.forall_mem_slots.mp h
  have option {found expected : Option (GroupOf ν)}
      (hexpected : ∀ group ∈ expected, ∀ m ∈ group.children, ∀ n, test m n = true ↔ m = n) :
      passOption (expected.map (GroupOf.agrees ∘ GroupOf.map test)) found = true ↔
        expected = found :=
    passOption_map_iff fun group hgroup _ => GroupOf.agrees_map_iff (hexpected group hgroup)
  simp [InstanceOf.agrees, InstanceOf.map, option hbefore, option hafter,
    GroupOf.agrees_map_iff hdivergent, InstanceOf.ext_iff, and_assoc]

theorem Layer.agrees_map_iff {a b : Layer ν}
    (h : ∀ m ∈ a.nodes, ∀ n, test m n = true ↔ m = n) :
    (a.map test).agrees b = true ↔ a = b := by
  cases a with
  | text s attrs => cases b <;> simp [Layer.map, Layer.agrees]
  | lineBreak attrs => cases b <;> simp [Layer.map, Layer.agrees]
  | header level g => cases b <;> simp [Layer.map, Layer.agrees, GroupOf.agrees_map_iff h]
  | code children language block attrs =>
      have hchildren := fun found => @passAll_map_iff _ test children found h
      cases b <;> simp [Layer.map, Layer.agrees, hchildren, and_assoc]
  | group g => cases b <;> simp [Layer.map, Layer.agrees, GroupOf.agrees_map_iff h]
  | table cells rows attrs =>
      have hcells := fun found => @passAll_map_iff _ test cells found fun m hm =>
        h m (List.mem_append_left _ hm)
      have hrows := fun found =>
        @passAll_map_iff _ (GroupOf.agrees ∘ GroupOf.map test) rows found fun row hrow row' =>
          GroupOf.agrees_map_iff fun m hm =>
            h m (List.mem_append_right _ (List.mem_flatMap.mpr ⟨row, hrow, hm⟩))
      cases b <;> simp [Layer.map, Layer.agrees, hcells, hrows, and_assoc]
  | list children ordered attrs =>
      have hchildren := fun found => @passAll_map_iff _ test children found h
      cases b <;> simp [Layer.map, Layer.agrees, hchildren, and_assoc]
  | driLink children address attrs =>
      have hchildren := fun found => @passAll_map_iff _ test children found h
      cases b <;> simp [Layer.map, Layer.agrees, hchildren, and_assoc]
  | resolvedLink children address attrs =>
      have hchildren := fun found => @passAll_map_iff _ test children found h
      cases b <;> simp [Layer.map, Layer.agrees, hchildren, and_assoc]
  | platformHinted inner platforms =>
      cases b <;> simp [Layer.map, Layer.agrees, h inner (List.mem_singleton_self _)]
  | divergentGroup instances attrs =>
      have hinstances := fun found =>
        @passAll_map_iff _ (InstanceOf.agrees ∘ InstanceOf.map test) instances found
          fun variant hvariant variant' => InstanceOf.agrees_map_iff fun m hm =>
            h m (List.mem_flatMap.mpr ⟨variant, hvariant, hm⟩)
      cases b <;> simp [Layer.map, Layer.agrees, hinstances]
  | divergentInstance variant =>
      cases b <;> simp [Layer.map, Layer.agrees, InstanceOf.agrees_map_iff h]

/-- Whether two trees are equal. -/
def Node.equal : Node → Node → Bool := Node.fold fun layer node => layer.agrees node.layer

theorem Node.equal_iff (a b : Node) : a.equal b = true ↔ a = b := by
  induction a using Node.induction generalizing b with
  | h layer ih =>
      obtain ⟨other⟩ := b
      rw [Node.equal, Node.fold_mk]
      exact (Layer.agrees_map_iff ih).trans (by simp)

instance : DecidableEq Node := fun a b => decidable_of_iff _ (Node.equal_iff a b)

end DocPages
