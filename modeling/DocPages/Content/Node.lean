import DocPages.Content.Attrs

/-!
The content tree of a page.

A node is one `Layer` over further nodes. Every recursion over the tree is a `Node.fold`, with one
equation `fold_mk`, and every proof by recursion follows `Node.induction`, in which the statement
may be assumed for all nodes directly below.
-/

namespace DocPages

variable [PropertyFamily]

/-- A sequence of nodes with attributes of its own. -/
@[ext]
structure GroupOf (ν : Type) where
  children : List ν
  attrs : Attrs
deriving DecidableEq, Inhabited

/-- One variant of content that differs per platform, with what stands before and after the part
that differs. -/
@[ext]
structure InstanceOf (ν : Type) where
  before : Option (GroupOf ν)
  divergent : GroupOf ν
  after : Option (GroupOf ν)
  attrs : Attrs
deriving DecidableEq, Inhabited

/-- One level of the content tree, over nodes `ν`. A header has the attributes of its group, a
hinted node those of the inner one, apart from the platforms. -/
inductive Layer (ν : Type) where
  | text (text : String) (attrs : Attrs)
  | lineBreak (attrs : Attrs)
  | header (level : UInt8) (group : GroupOf ν)
  | code (children : List ν) (language : String) (block : Bool) (attrs : Attrs)
  | group (group : GroupOf ν)
  | table (header : List ν) (rows : List (GroupOf ν)) (attrs : Attrs)
  | list (children : List ν) (ordered : Bool) (attrs : Attrs)
  | driLink (children : List ν) (address : Dri) (attrs : Attrs)
  | resolvedLink (children : List ν) (address : String) (attrs : Attrs)
  | platformHinted (inner : ν) (platforms : PlatformSet)
  | divergentGroup (instances : List (InstanceOf ν)) (attrs : Attrs)
  | divergentInstance (variant : InstanceOf ν)
deriving DecidableEq

/-- A node of the content tree. -/
structure Node where
  layer : Layer Node

instance : Inhabited Node := ⟨⟨.text "" default⟩⟩

abbrev Group := GroupOf Node

abbrev Instance := InstanceOf Node

def GroupOf.map {ν μ : Type} (f : ν → μ) (group : GroupOf ν) : GroupOf μ :=
  ⟨group.children.map f, group.attrs⟩

namespace InstanceOf

variable {ν μ : Type}

def map (f : ν → μ) (variant : InstanceOf ν) : InstanceOf μ :=
  ⟨variant.before.map (GroupOf.map f), variant.divergent.map f,
    variant.after.map (GroupOf.map f), variant.attrs⟩

/-- The groups of an instance in document order. -/
def slots (variant : InstanceOf ν) : List (GroupOf ν) :=
  variant.before.toList ++ variant.divergent :: variant.after.toList

end InstanceOf

namespace Layer

variable {ν μ : Type}

def map (f : ν → μ) : Layer ν → Layer μ
  | text s attrs => text s attrs
  | lineBreak attrs => lineBreak attrs
  | header level g => header level (g.map f)
  | code children language block attrs => code (children.map f) language block attrs
  | group g => group (g.map f)
  | table cells rows attrs => table (cells.map f) (rows.map (GroupOf.map f)) attrs
  | list children ordered attrs => list (children.map f) ordered attrs
  | driLink children address attrs => driLink (children.map f) address attrs
  | resolvedLink children address attrs => resolvedLink (children.map f) address attrs
  | platformHinted inner platforms => platformHinted (f inner) platforms
  | divergentGroup instances attrs => divergentGroup (instances.map (InstanceOf.map f)) attrs
  | divergentInstance variant => divergentInstance (variant.map f)

/-- The nodes of a layer in document order. -/
def nodes : Layer ν → List ν
  | text _ _ => []
  | lineBreak _ => []
  | header _ g => g.children
  | code children _ _ _ => children
  | group g => g.children
  | table cells rows _ => cells ++ rows.flatMap GroupOf.children
  | list children _ _ => children
  | driLink children _ _ => children
  | resolvedLink children _ _ => children
  | platformHinted inner _ => [inner]
  | divergentGroup instances _ =>
      instances.flatMap fun variant => variant.slots.flatMap GroupOf.children
  | divergentInstance variant => variant.slots.flatMap GroupOf.children

end Layer

theorem InstanceOf.forall_mem_slots {ν : Type} {P : ν → Prop} {variant : InstanceOf ν} :
    (∀ m ∈ variant.slots.flatMap GroupOf.children, P m) ↔
      (∀ group ∈ variant.before, ∀ m ∈ group.children, P m) ∧
        (∀ m ∈ variant.divergent.children, P m) ∧
        ∀ group ∈ variant.after, ∀ m ∈ group.children, P m := by
  rw [List.forall_mem_flatMap, slots, List.forall_mem_append, List.forall_mem_cons]
  simp only [Option.mem_toList, Option.mem_def]

theorem InstanceOf.slots_map {ν μ : Type} (f : ν → μ) (variant : InstanceOf ν) :
    (variant.map f).slots = variant.slots.map (GroupOf.map f) := by
  simp [slots, map, Option.toList_map]

theorem Layer.nodes_map {ν μ : Type} (f : ν → μ) (layer : Layer ν) :
    (layer.map f).nodes = layer.nodes.map f := by
  cases layer <;>
    simp [map, nodes, GroupOf.map, InstanceOf.slots_map, List.flatMap_map, List.map_flatMap]

theorem GroupOf.map_congr {ν μ : Type} {f g : ν → μ} {group : GroupOf ν}
    (h : ∀ m ∈ group.children, f m = g m) : group.map f = group.map g := by
  simp only [GroupOf.map, List.map_congr_left h]

theorem InstanceOf.map_congr {ν μ : Type} {f g : ν → μ} {variant : InstanceOf ν}
    (h : ∀ m ∈ variant.slots.flatMap GroupOf.children, f m = g m) :
    variant.map f = variant.map g := by
  obtain ⟨hbefore, hdivergent, hafter⟩ := InstanceOf.forall_mem_slots.mp h
  have hbefore' : variant.before.map (GroupOf.map f) = variant.before.map (GroupOf.map g) :=
    Option.map_congr fun group hgroup => GroupOf.map_congr (hbefore group hgroup)
  have hafter' : variant.after.map (GroupOf.map f) = variant.after.map (GroupOf.map g) :=
    Option.map_congr fun group hgroup => GroupOf.map_congr (hafter group hgroup)
  simp only [InstanceOf.map, hbefore', hafter', GroupOf.map_congr hdivergent]

theorem Layer.map_congr {ν μ : Type} {f g : ν → μ} {layer : Layer ν}
    (h : ∀ m ∈ layer.nodes, f m = g m) : layer.map f = layer.map g := by
  cases layer with
  | text s attrs => rfl
  | lineBreak attrs => rfl
  | header level group => exact congrArg (Layer.header level) (GroupOf.map_congr h)
  | code children language block attrs =>
      have hchildren : children.map f = children.map g := List.map_congr_left h
      simp only [Layer.map, hchildren]
  | group group => exact congrArg Layer.group (GroupOf.map_congr h)
  | table cells rows attrs =>
      have hcells : cells.map f = cells.map g :=
        List.map_congr_left fun m hm => h m (List.mem_append_left _ hm)
      have hrows : rows.map (GroupOf.map f) = rows.map (GroupOf.map g) :=
        List.map_congr_left fun row hrow => GroupOf.map_congr fun m hm =>
          h m (List.mem_append_right _ (List.mem_flatMap.mpr ⟨row, hrow, hm⟩))
      simp only [Layer.map, hcells, hrows]
  | list children ordered attrs =>
      have hchildren : children.map f = children.map g := List.map_congr_left h
      simp only [Layer.map, hchildren]
  | driLink children address attrs =>
      have hchildren : children.map f = children.map g := List.map_congr_left h
      simp only [Layer.map, hchildren]
  | resolvedLink children address attrs =>
      have hchildren : children.map f = children.map g := List.map_congr_left h
      simp only [Layer.map, hchildren]
  | platformHinted inner platforms => simp only [Layer.map, h inner (List.mem_singleton_self _)]
  | divergentGroup instances attrs =>
      have hinstances : instances.map (InstanceOf.map f) = instances.map (InstanceOf.map g) :=
        List.map_congr_left fun variant hvariant => InstanceOf.map_congr fun m hm =>
          h m (List.mem_flatMap.mpr ⟨variant, hvariant, hm⟩)
      simp only [Layer.map, hinstances]
  | divergentInstance variant =>
      exact congrArg Layer.divergentInstance (InstanceOf.map_congr h)

section functor

variable {ν μ β : Type} (g : μ → β) (f : ν → μ)

theorem GroupOf.map_id : GroupOf.map (id : ν → ν) = id := by
  funext group
  simp [map]

theorem GroupOf.map_comp_map : GroupOf.map g ∘ GroupOf.map f = GroupOf.map (g ∘ f) := by
  funext group
  simp [map]

theorem InstanceOf.map_id : InstanceOf.map (id : ν → ν) = id := by
  funext variant
  simp [map, GroupOf.map_id]

theorem InstanceOf.map_comp_map :
    InstanceOf.map g ∘ InstanceOf.map f = InstanceOf.map (g ∘ f) := by
  funext variant
  simp [map, GroupOf.map_comp_map, ← congrFun (GroupOf.map_comp_map g f)]

theorem Layer.map_id (layer : Layer ν) : layer.map id = layer := by
  cases layer <;> simp [map, GroupOf.map_id, InstanceOf.map_id]

theorem Layer.map_map (layer : Layer ν) : (layer.map f).map g = layer.map (g ∘ f) := by
  cases layer <;>
    simp [map, GroupOf.map_comp_map, InstanceOf.map_comp_map, ← congrFun (GroupOf.map_comp_map g f),
      ← congrFun (InstanceOf.map_comp_map g f)]

end functor

section fold

variable {β : Type} (step : Layer β → β)

mutual

/-- Folds a tree from its leaves: `step` joins the results of the nodes of one layer. -/
def Node.fold : Node → β
  | ⟨layer⟩ => step (foldLayer layer)

def foldLayer : Layer Node → Layer β
  | .text s attrs => .text s attrs
  | .lineBreak attrs => .lineBreak attrs
  | .header level group => .header level (foldGroup group)
  | .code children language block attrs => .code (foldNodes children) language block attrs
  | .group group => .group (foldGroup group)
  | .table cells rows attrs => .table (foldNodes cells) (foldGroups rows) attrs
  | .list children ordered attrs => .list (foldNodes children) ordered attrs
  | .driLink children address attrs => .driLink (foldNodes children) address attrs
  | .resolvedLink children address attrs => .resolvedLink (foldNodes children) address attrs
  | .platformHinted inner platforms => .platformHinted inner.fold platforms
  | .divergentGroup instances attrs => .divergentGroup (foldInstances instances) attrs
  | .divergentInstance variant => .divergentInstance (foldInstance variant)

def foldGroup : GroupOf Node → GroupOf β
  | ⟨children, attrs⟩ => ⟨foldNodes children, attrs⟩

def foldInstance : InstanceOf Node → InstanceOf β
  | ⟨before, divergent, after, attrs⟩ =>
      ⟨foldSlot before, foldGroup divergent, foldSlot after, attrs⟩

def foldNodes : List Node → List β
  | [] => []
  | node :: rest => node.fold :: foldNodes rest

def foldGroups : List (GroupOf Node) → List (GroupOf β)
  | [] => []
  | group :: rest => foldGroup group :: foldGroups rest

def foldInstances : List (InstanceOf Node) → List (InstanceOf β)
  | [] => []
  | variant :: rest => foldInstance variant :: foldInstances rest

def foldSlot : Option (GroupOf Node) → Option (GroupOf β)
  | none => none
  | some group => some (foldGroup group)

end

theorem foldNodes_eq_map (nodes : List Node) : foldNodes step nodes = nodes.map (Node.fold step) := by
  induction nodes with
  | nil => rfl
  | cons node rest ih => rw [foldNodes, ih, List.map_cons]

theorem foldGroup_eq_map (group : Group) : foldGroup step group = group.map (Node.fold step) := by
  rw [foldGroup, foldNodes_eq_map, GroupOf.map]

theorem foldGroups_eq_map (groups : List Group) :
    foldGroups step groups = groups.map (GroupOf.map (Node.fold step)) := by
  induction groups with
  | nil => rfl
  | cons group rest ih => rw [foldGroups, ih, foldGroup_eq_map, List.map_cons]

theorem foldSlot_eq_map (slot : Option Group) :
    foldSlot step slot = slot.map (GroupOf.map (Node.fold step)) := by
  cases slot with
  | none => rfl
  | some group => rw [foldSlot, foldGroup_eq_map, Option.map_some]

theorem foldInstance_eq_map (variant : Instance) :
    foldInstance step variant = variant.map (Node.fold step) := by
  rw [foldInstance, foldSlot_eq_map, foldSlot_eq_map, foldGroup_eq_map, InstanceOf.map]

theorem foldInstances_eq_map (instances : List Instance) :
    foldInstances step instances = instances.map (InstanceOf.map (Node.fold step)) := by
  induction instances with
  | nil => rfl
  | cons variant rest ih => rw [foldInstances, ih, foldInstance_eq_map, List.map_cons]

theorem foldLayer_eq_map (layer : Layer Node) :
    foldLayer step layer = layer.map (Node.fold step) := by
  cases layer <;>
    simp only [foldLayer, Layer.map, foldNodes_eq_map, foldGroup_eq_map, foldGroups_eq_map,
      foldInstance_eq_map, foldInstances_eq_map]

theorem Node.fold_mk (layer : Layer Node) :
    (Node.mk layer).fold step = step (layer.map (Node.fold step)) := by
  rw [Node.fold, foldLayer_eq_map]

end fold

/-- A statement holds of all nodes if it passes from the nodes of a layer to the node that the
layer makes. -/
theorem Node.induction {P : Node → Prop}
    (h : ∀ layer : Layer Node, (∀ m ∈ layer.nodes, P m) → P ⟨layer⟩) (node : Node) : P node := by
  have append {a b : List Node} (ha : ∀ m ∈ a, P m) (hb : ∀ m ∈ b, P m) : ∀ m ∈ a ++ b, P m :=
    List.forall_mem_append.mpr ⟨ha, hb⟩
  have slots {before divergent after attrs}
      (hbefore : ∀ m ∈ before.toList.flatMap GroupOf.children, P m)
      (hdivergent : ∀ m ∈ divergent.children, P m)
      (hafter : ∀ m ∈ after.toList.flatMap GroupOf.children, P m) :
      ∀ m ∈ (InstanceOf.mk before divergent after attrs).slots.flatMap GroupOf.children, P m := by
    rw [InstanceOf.slots, List.flatMap_append, List.flatMap_cons]
    exact append hbefore (append hdivergent hafter)
  exact @Node.rec _ P
    (fun layer => ∀ m ∈ layer.nodes, P m)
    (fun group => ∀ m ∈ group.children, P m)
    (fun nodes => ∀ m ∈ nodes, P m)
    (fun groups => ∀ m ∈ groups.flatMap GroupOf.children, P m)
    (fun instances =>
      ∀ m ∈ instances.flatMap fun variant => variant.slots.flatMap GroupOf.children, P m)
    (fun variant => ∀ m ∈ variant.slots.flatMap GroupOf.children, P m)
    (fun slot => ∀ m ∈ slot.toList.flatMap GroupOf.children, P m)
    h
    (fun _ _ _ hm => nomatch hm) (fun _ _ hm => nomatch hm) (fun _ _ ih => ih)
    (fun _ _ _ _ ih => ih) (fun _ ih => ih) (fun _ _ _ hcells hrows => append hcells hrows)
    (fun _ _ _ ih => ih) (fun _ _ _ ih => ih) (fun _ _ _ ih => ih)
    (fun _ _ ih _ hm => List.mem_singleton.mp hm ▸ ih) (fun _ _ ih => ih) (fun _ ih => ih)
    (fun _ _ ih => ih)
    (fun _ hm => nomatch hm) (fun _ _ hnode hrest => List.forall_mem_cons.mpr ⟨hnode, hrest⟩)
    (fun _ hm => nomatch hm) (fun _ _ hgroup hrest => append hgroup hrest)
    (fun _ hm => nomatch hm) (fun _ _ hvariant hrest => append hvariant hrest)
    (fun _ _ _ _ hbefore hdivergent hafter => slots hbefore hdivergent hafter)
    (fun _ hm => nomatch hm) (fun group ih => append ih (fun _ hm => nomatch hm))
    node

namespace Node

@[match_pattern] abbrev text (s : String) (attrs : Attrs) : Node := ⟨.text s attrs⟩

@[match_pattern] abbrev lineBreak (attrs : Attrs) : Node := ⟨.lineBreak attrs⟩

@[match_pattern] abbrev header (level : UInt8) (g : Group) : Node := ⟨.header level g⟩

@[match_pattern] abbrev code (children : List Node) (language : String) (block : Bool)
    (attrs : Attrs) : Node :=
  ⟨.code children language block attrs⟩

@[match_pattern] abbrev group (g : Group) : Node := ⟨.group g⟩

@[match_pattern] abbrev table (cells : List Node) (rows : List Group) (attrs : Attrs) : Node :=
  ⟨.table cells rows attrs⟩

@[match_pattern] abbrev list (children : List Node) (ordered : Bool) (attrs : Attrs) : Node :=
  ⟨.list children ordered attrs⟩

@[match_pattern] abbrev driLink (children : List Node) (address : Dri) (attrs : Attrs) : Node :=
  ⟨.driLink children address attrs⟩

@[match_pattern] abbrev resolvedLink (children : List Node) (address : String) (attrs : Attrs) :
    Node :=
  ⟨.resolvedLink children address attrs⟩

@[match_pattern] abbrev platformHinted (inner : Node) (platforms : PlatformSet) : Node :=
  ⟨.platformHinted inner platforms⟩

@[match_pattern] abbrev divergentGroup (instances : List Instance) (attrs : Attrs) : Node :=
  ⟨.divergentGroup instances attrs⟩

@[match_pattern] abbrev divergentInstance (variant : Instance) : Node :=
  ⟨.divergentInstance variant⟩

end Node

/-- The attributes of the node that a layer makes, from those of the nodes in it. -/
def Layer.attrs : Layer Attrs → Attrs
  | text _ attrs => attrs
  | lineBreak attrs => attrs
  | header _ g => g.attrs
  | code _ _ _ attrs => attrs
  | group g => g.attrs
  | table _ _ attrs => attrs
  | list _ _ attrs => attrs
  | driLink _ _ attrs => attrs
  | resolvedLink _ _ attrs => attrs
  | platformHinted inner platforms => { inner with platforms }
  | divergentGroup _ attrs => attrs
  | divergentInstance variant => variant.attrs

namespace Node

def attrs : Node → Attrs := fold Layer.attrs

def identity (node : Node) : Identity := node.attrs.identity

def platforms (node : Node) : PlatformSet := node.attrs.platforms

def styles (node : Node) : StyleSet := node.attrs.styles

def extra (node : Node) : Properties := node.attrs.extra

def asGroup? : Node → Option Group
  | group g => some g
  | _ => none

/-- The text of a text leaf. -/
def asText? : Node → Option String
  | text s _ => some s
  | _ => none

/-- The rows of a table. -/
def asTable? : Node → Option (List Group)
  | table _ rows _ => some rows
  | _ => none

/-- The level of a header. -/
def asHeader? : Node → Option UInt8
  | header level _ => some level
  | _ => none

end Node

end DocPages
