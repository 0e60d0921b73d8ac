import DocPages.Content.Node
import DocPages.DocTag.Content
import Mathlib.Logic.Relation

/-!
Platforms that narrow on the way down a content tree.

The parts of a node are all that stands directly in it, rows, instances and slots among them. A tree
narrows if each part at any depth applies to no other platforms than what it stands in; this need
only be known from one node to its own parts (`Narrowing.of_parts`).
-/

namespace DocPages

open Relation

namespace OrderedSet

variable {α : Type} [Ord α]

instance : HasSubset (OrderedSet α) := ⟨fun a b => ∀ x ∈ a, x ∈ b⟩

theorem subset_refl (a : OrderedSet α) : a ⊆ a := fun _ hx => hx

theorem subset_trans {a b c : OrderedSet α} (hab : a ⊆ b) (hbc : b ⊆ c) : a ⊆ c :=
  fun x hx => hbc x (hab x hx)

end OrderedSet

variable [PropertyFamily]

section parts

open Node

/-- What stands directly in a layer, where rows and slots are groups and instances are nodes. -/
def Layer.parts : Layer Node → List Node
  | table cells rows _ => cells ++ rows.map Node.group
  | divergentGroup instances _ => instances.map Node.divergentInstance
  | divergentInstance variant => variant.slots.map Node.group
  | layer => layer.nodes

def Node.Holds (node part : Node) : Prop := part ∈ node.layer.parts

end parts

namespace Node

section attrs

variable (own : Attrs) (g : Group)

@[simp] theorem attrs_text (s : String) : (text s own).attrs = own := fold_mk _ _

@[simp] theorem attrs_lineBreak : (lineBreak own).attrs = own := fold_mk _ _

@[simp] theorem attrs_header (level : UInt8) : (header level g).attrs = g.attrs := fold_mk _ _

@[simp] theorem attrs_code (children : List Node) (language : String) (block : Bool) :
    (code children language block own).attrs = own := fold_mk _ _

@[simp] theorem attrs_group : (group g).attrs = g.attrs := fold_mk _ _

@[simp] theorem attrs_table (cells : List Node) (rows : List Group) :
    (table cells rows own).attrs = own := fold_mk _ _

@[simp] theorem attrs_list (children : List Node) (ordered : Bool) :
    (list children ordered own).attrs = own := fold_mk _ _

@[simp] theorem attrs_driLink (children : List Node) (address : Dri) :
    (driLink children address own).attrs = own := fold_mk _ _

@[simp] theorem attrs_resolvedLink (children : List Node) (address : String) :
    (resolvedLink children address own).attrs = own := fold_mk _ _

@[simp] theorem attrs_platformHinted (inner : Node) (platforms : PlatformSet) :
    (platformHinted inner platforms).attrs =
      { inner.attrs with platforms } := fold_mk _ _

@[simp] theorem attrs_divergentGroup (instances : List Instance) :
    (divergentGroup instances own).attrs = own := fold_mk _ _

@[simp] theorem attrs_divergentInstance (variant : Instance) :
    (divergentInstance variant).attrs = variant.attrs := fold_mk _ _

end attrs

/-- All that stands in anything of a tree applies to no other platforms than that, and hinted
content is hinted on its own platforms. -/
structure Narrowing (root : Node) : Prop where
  contained : ∀ outer inner, ReflTransGen Holds root outer → TransGen Holds outer inner →
    inner.platforms ⊆ outer.platforms
  hinted : ∀ inner platforms, ReflTransGen Holds root (platformHinted inner platforms) →
    platforms = inner.platforms

/-- A narrowing tree that may stand in what applies to the given platforms. -/
def FitsIn (platforms : PlatformSet) (node : Node) : Prop :=
  node.platforms ⊆ platforms ∧ node.Narrowing

/-- A tree narrows if it does so from the root to its parts and these trees narrow. -/
theorem Narrowing.of_parts {node : Node} (h : ∀ part, node.Holds part → part.FitsIn node.platforms)
    (hhinted : ∀ inner platforms, node = platformHinted inner platforms →
      platforms = inner.platforms) : node.Narrowing := by
  constructor
  · intro outer inner houter hinner
    rcases ReflTransGen.cases_head houter with rfl | ⟨part, hpart, houter⟩
    · obtain ⟨part, hpart, hinner⟩ := TransGen.head'_iff.mp hinner
      have hsubset : inner.platforms ⊆ part.platforms := by
        rcases reflTransGen_iff_eq_or_transGen.mp hinner with rfl | hinner
        · exact OrderedSet.subset_refl _
        · exact (h part hpart).2.contained part inner .refl hinner
      exact OrderedSet.subset_trans hsubset (h part hpart).1
    · exact (h part hpart).2.contained outer inner houter hinner
  · intro inner platforms hinner
    rcases ReflTransGen.cases_head hinner with heq | ⟨part, hpart, hinner⟩
    · exact hhinted inner platforms heq
    · exact (h part hpart).2.hinted inner platforms hinner

theorem Narrowing.fitsIn_own {node : Node} (h : node.Narrowing) : node.FitsIn node.platforms :=
  ⟨OrderedSet.subset_refl _, h⟩

theorem FitsIn.mono {node : Node} {platforms wider : PlatformSet} (h : node.FitsIn platforms)
    (hwider : platforms ⊆ wider) : node.FitsIn wider :=
  ⟨OrderedSet.subset_trans h.1 hwider, h.2⟩

section layers

variable {own : Attrs} {platforms : PlatformSet} {children : List Node}

theorem FitsIn.of_children {node : Node} (hattrs : node.attrs = own)
    (hparts : node.layer.parts = children)
    (hhinted : ∀ inner hinted, node ≠ platformHinted inner hinted)
    (hown : own.platforms ⊆ platforms) (h : ∀ child ∈ children, child.FitsIn own.platforms) :
    node.FitsIn platforms := by
  have hplatforms : node.platforms = own.platforms :=
    congrArg (fun own : Attrs => own.platforms) hattrs
  refine ⟨hplatforms ▸ hown, .of_parts ?_ fun inner hinted heq => absurd heq (hhinted inner hinted)⟩
  intro part hpart
  rw [hplatforms]
  exact h part (hparts ▸ hpart)

theorem fitsIn_text (s : String) (hown : own.platforms ⊆ platforms) :
    (text s own).FitsIn platforms :=
  .of_children (attrs_text own s) rfl nofun hown (List.forall_mem_nil _)

theorem fitsIn_header (level : UInt8) (hown : own.platforms ⊆ platforms)
    (h : ∀ child ∈ children, child.FitsIn own.platforms) :
    (header level ⟨children, own⟩).FitsIn platforms :=
  .of_children (attrs_header _ level) rfl nofun hown h

theorem fitsIn_group (hown : own.platforms ⊆ platforms)
    (h : ∀ child ∈ children, child.FitsIn own.platforms) :
    (group ⟨children, own⟩).FitsIn platforms :=
  .of_children (attrs_group _) rfl nofun hown h

theorem fitsIn_driLink (address : Dri) (hown : own.platforms ⊆ platforms)
    (h : ∀ child ∈ children, child.FitsIn own.platforms) :
    (driLink children address own).FitsIn platforms :=
  .of_children (attrs_driLink own children address) rfl nofun hown h

theorem fitsIn_resolvedLink (address : String) (hown : own.platforms ⊆ platforms)
    (h : ∀ child ∈ children, child.FitsIn own.platforms) :
    (resolvedLink children address own).FitsIn platforms :=
  .of_children (attrs_resolvedLink own children address) rfl nofun hown h

theorem fitsIn_table {rows : List Group} (hown : own.platforms ⊆ platforms)
    (h : ∀ row ∈ rows, (group row).FitsIn own.platforms) :
    (table [] rows own).FitsIn platforms :=
  .of_children (attrs_table own [] rows) rfl nofun hown (List.forall_mem_map.mpr h)

theorem fitsIn_divergentInstance {variant : Instance} (hown : variant.attrs.platforms ⊆ platforms)
    (h : ∀ slot ∈ variant.slots, (group slot).FitsIn variant.attrs.platforms) :
    (divergentInstance variant).FitsIn platforms :=
  .of_children (attrs_divergentInstance variant) rfl nofun hown (List.forall_mem_map.mpr h)

theorem fitsIn_divergentGroup {instances : List Instance} (hown : own.platforms ⊆ platforms)
    (h : ∀ variant ∈ instances, (divergentInstance variant).FitsIn own.platforms) :
    (divergentGroup instances own).FitsIn platforms :=
  .of_children (attrs_divergentGroup own instances) rfl nofun hown (List.forall_mem_map.mpr h)

theorem fitsIn_platformHinted {inner : Node} (h : inner.FitsIn platforms) :
    (platformHinted inner inner.platforms).FitsIn platforms := by
  have hplatforms : (platformHinted inner inner.platforms).platforms = inner.platforms :=
    congrArg (fun own : Attrs => own.platforms) (attrs_platformHinted inner inner.platforms)
  refine ⟨hplatforms ▸ h.1, .of_parts ?_ ?_⟩
  · intro part hpart
    obtain rfl := List.mem_singleton.mp hpart
    rw [hplatforms]
    exact h.2.fitsIn_own
  · intro other hinted heq
    obtain ⟨rfl, rfl⟩ := Layer.platformHinted.inj (Node.mk.inj heq)
    rfl

end layers

/-- A node and all that stands in it have a property. -/
def Throughout (P : Node → Prop) (node : Node) : Prop :=
  ∀ part, ReflTransGen Holds node part → P part

theorem Throughout.of_children {P : Node → Prop} {node : Node} {children : List Node}
    (hnode : P node) (hparts : node.layer.parts = children)
    (h : ∀ child ∈ children, child.Throughout P) : node.Throughout P := by
  intro inner hinner
  rcases ReflTransGen.cases_head hinner with rfl | ⟨part, hpart, hinner⟩
  · exact hnode
  · exact h part (hparts ▸ hpart) inner hinner

/-- A node and all that stands in it apply to the same platforms. -/
def Carries (platforms : PlatformSet) (node : Node) : Prop :=
  ∀ part, ReflTransGen Holds node part → part.platforms = platforms

theorem Carries.fitsIn {node : Node} {platforms : PlatformSet} (h : node.Carries platforms) :
    node.FitsIn platforms := by
  refine ⟨?_, ?_, ?_⟩
  · rw [h node .refl]
    exact OrderedSet.subset_refl platforms
  · intro outer inner houter hinner
    rw [h outer houter, h inner (houter.trans hinner.to_reflTransGen)]
    exact OrderedSet.subset_refl platforms
  · intro inner hinted hinner
    have hhinted := h _ hinner
    rw [Node.platforms, attrs_platformHinted] at hhinted
    have hplatforms := h inner (hinner.tail (List.mem_singleton_self inner))
    exact hhinted.trans hplatforms.symm

end Node

/-- Whether a layer is one of those that comments become. -/
def Layer.inComments {ν : Type} : Layer ν → Bool
  | text .. | lineBreak _ | group _ | code .. | list .. | driLink .. | resolvedLink .. => true
  | header .. | table .. | platformHinted .. | divergentGroup .. | divergentInstance _ => false

/-- A node is one that a comment may become where its attributes are told by its styles. -/
structure Node.Converted (attrs : StyleSet → Attrs) (node : Node) : Prop where
  inComments : node.layer.inComments = true
  attrs_eq : ∃ styles, node.attrs = attrs styles

namespace DocTag

open Node

variable {attrs : StyleSet → Attrs} {children : List Node}

theorem throughout_converted_content (h : ∀ child ∈ children, child.Throughout (Converted attrs))
    (styles : StyleSet) (markup : Markup) :
    ∀ node ∈ markup.content attrs styles children, node.Throughout (Converted attrs) := by
  have hgroup (styles : StyleSet) :
      ∀ node ∈ [group ⟨children, attrs styles⟩], node.Throughout (Converted attrs) :=
    List.forall_mem_singleton.mpr (.of_children ⟨rfl, styles, attrs_group _⟩ rfl h)
  have hcode (language : String) (block : Bool) :
      ∀ node ∈ [code children language block (attrs ∅)], node.Throughout (Converted attrs) :=
    List.forall_mem_singleton.mpr (.of_children ⟨rfl, ∅, attrs_code _ _ _ _⟩ rfl h)
  have hlist (ordered : Bool) :
      ∀ node ∈ [list children ordered (attrs ∅)], node.Throughout (Converted attrs) :=
    List.forall_mem_singleton.mpr (.of_children ⟨rfl, ∅, attrs_list _ _ _⟩ rfl h)
  cases markup with
  | paragraph => exact hgroup _
  | bold => exact hgroup _
  | italic => exact hgroup _
  | strikethrough => exact hgroup _
  | codeInline => exact hcode _ _
  | codeBlock language => exact hcode _ _
  | link address =>
      exact List.forall_mem_singleton.mpr
        (.of_children ⟨rfl, styles, attrs_resolvedLink _ _ _⟩ rfl h)
  | documentationLink address =>
      exact List.forall_mem_singleton.mpr
        (.of_children ⟨rfl, styles, attrs_driLink _ _ _⟩ rfl h)
  | unorderedList => exact hlist _
  | orderedList => exact hlist _
  | listItem => exact hgroup _
  | custom name => exact h

theorem throughout_converted_contentIn (attrs : StyleSet → Attrs) (styles : StyleSet)
    (tag : DocTag) :
    ∀ node ∈ tag.contentIn attrs styles, node.Throughout (Converted attrs) := by
  have hnil := List.forall_mem_nil (Node.Throughout (Converted attrs))
  induction tag using DocTag.induction generalizing styles with
  | text s =>
      exact List.forall_mem_singleton.mpr (.of_children ⟨rfl, styles, attrs_text _ s⟩ rfl hnil)
  | lineBreak =>
      exact List.forall_mem_singleton.mpr (.of_children ⟨rfl, ∅, attrs_lineBreak _⟩ rfl hnil)
  | element markup children ih =>
      apply throughout_converted_content
      rw [contentAllIn_eq_flatMap]
      intro node hnode
      obtain ⟨tag, htag, hnode⟩ := List.mem_flatMap.mp hnode
      exact ih tag htag _ node hnode

theorem carries_toContent (tag : DocTag) (identity : Identity) (platforms : PlatformSet) :
    ∀ node ∈ tag.toContent identity platforms, node.Carries platforms := by
  intro node hnode part hpart
  obtain ⟨_, styles, hattrs⟩ := throughout_converted_contentIn _ _ tag node hnode part hpart
  rw [Node.platforms, hattrs]
  rfl

end DocTag

end DocPages
