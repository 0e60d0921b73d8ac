import DocPages.Proofs.Comment.Emphasis
import DocPages.Proofs.Content.Containment

/-!
The attributes of converted comments.

The tags of a comment, custom markup apart, become the nodes of its content one by one in document
order. All of them have the identity and platforms that the comment is converted for. Paragraphs
have a style of their own, and any other style of a node is emphasis around its tag.
-/

namespace DocPages

open Relation

/-- A tag of a comment with the markup that it stands in, innermost first. -/
structure Site where
  tag : DocTag
  around : List Markup

namespace Markup

/-- Whether an element becomes a node; the content of any other is that of its children. -/
def hasNode : Markup → Bool
  | custom _ => false
  | _ => true

/-- All of the styles are emphasis that some of the markup stands for. -/
def Accounts (around : List Markup) (styles : StyleSet) : Prop :=
  ∀ style ∈ styles, ∃ markup ∈ around, markup.emphasis? = some style

theorem accounts_nil : Accounts [] ∅ := fun _ hstyle => absurd hstyle List.not_mem_nil

theorem Accounts.inherited {around : List Markup} {styles : StyleSet} (h : Accounts around styles)
    (markup : Markup) : Accounts (markup :: around) (markup.inherited styles) := by
  intro style hstyle
  rcases mem_inherited.mp hstyle with hmarkup | ⟨_, hstyle⟩
  · exact ⟨markup, List.mem_cons_self, hmarkup⟩
  · obtain ⟨outer, houter, hemphasis⟩ := h style hstyle
    exact ⟨outer, List.mem_cons_of_mem markup houter, hemphasis⟩

theorem emphasis?_ne_paragraph (markup : Markup) : markup.emphasis? ≠ some .paragraph := by
  cases markup <;> simp [emphasis?]

theorem Accounts.paragraph_not_mem {around : List Markup} {styles : StyleSet}
    (h : Accounts around styles) : Style.paragraph ∉ styles := by
  intro hstyle
  obtain ⟨markup, _, hmarkup⟩ := h .paragraph hstyle
  exact markup.emphasis?_ne_paragraph hmarkup

end Markup

namespace DocTag

mutual

/-- The tags that become nodes, in document order, for a tag that stands in some markup. -/
def sites (around : List Markup) : DocTag → List Site
  | text s => [⟨text s, around⟩]
  | lineBreak => [⟨lineBreak, around⟩]
  | element markup children =>
      (if markup.hasNode then [⟨element markup children, around⟩] else []) ++
        sitesAll (markup :: around) children

def sitesAll (around : List Markup) : List DocTag → List Site
  | [] => []
  | tag :: rest => tag.sites around ++ sitesAll around rest

end

end DocTag

variable [PropertyFamily]

/-- The node that a layer makes, and all nodes at any depth from there, given both for the nodes of
the layer. -/
def Layer.preorder (layer : Layer (Node × List Node)) : Node × List Node :=
  let node : Node := ⟨layer.map Prod.fst⟩
  (node, node :: layer.nodes.flatMap Prod.snd)

namespace Node

/-- A node and the nodes at any depth in it, in document order. -/
def preorder (node : Node) : List Node := (node.fold Layer.preorder).2

theorem fst_fold_preorder (node : Node) : (node.fold Layer.preorder).1 = node := by
  induction node using Node.induction with
  | h layer ih =>
      have hself : layer.map (Prod.fst ∘ fold Layer.preorder) = layer.map id :=
        Layer.map_congr ih
      rw [fold_mk, Layer.preorder, Layer.map_map, hself, Layer.map_id]

theorem preorder_mk (layer : Layer Node) :
    (Node.mk layer).preorder = ⟨layer⟩ :: layer.nodes.flatMap preorder := by
  have hnode := fst_fold_preorder ⟨layer⟩
  rw [fold_mk] at hnode
  rw [preorder, fold_mk, Layer.preorder, Layer.nodes_map, List.flatMap_map]
  exact congrArg (· :: layer.nodes.flatMap preorder) hnode

end Node

/-- Some nodes and the nodes at any depth in them, in document order. -/
def preorderAll (nodes : List Node) : List Node := nodes.flatMap Node.preorder

theorem preorderAll_singleton (layer : Layer Node) :
    preorderAll [⟨layer⟩] = ⟨layer⟩ :: preorderAll layer.nodes := by
  rw [preorderAll, List.flatMap_singleton, Node.preorder_mk, preorderAll]

theorem Layer.parts_eq_nodes {layer : Layer Node} (h : layer.inComments = true) :
    layer.parts = layer.nodes := by
  cases layer with
  | table cells rows attrs => cases h
  | divergentGroup instances attrs => cases h
  | divergentInstance variant => cases h
  | _ => rfl

theorem Node.mem_preorder_iff {node part : Node}
    (h : node.Throughout fun part => part.layer.inComments = true) :
    part ∈ node.preorder ↔ ReflTransGen Holds node part := by
  induction node using Node.induction with
  | h layer ih =>
      have hparts : layer.parts = layer.nodes := Layer.parts_eq_nodes (h ⟨layer⟩ .refl)
      have hholds {m : Node} (hm : m ∈ layer.nodes) : Holds ⟨layer⟩ m := by
        rwa [← hparts] at hm
      rw [preorder_mk, List.mem_cons, List.mem_flatMap]
      constructor
      · rintro (rfl | ⟨m, hm, hpart⟩)
        · exact .refl
        · have hbelow := (ih m hm fun inner hinner => h inner (.head (hholds hm) hinner)).mp hpart
          exact .head (hholds hm) hbelow
      · intro hpart
        rcases ReflTransGen.cases_head hpart with heq | ⟨m, hm, hpart⟩
        · exact .inl heq.symm
        · have hm : m ∈ layer.nodes := hparts ▸ hm
          have hbelow := ih m hm fun inner hinner => h inner (.head (hholds hm) hinner)
          exact .inr ⟨m, hm, hbelow.mpr hpart⟩

namespace Site

/-- The node that a tag becomes, and the styles that the node may have. -/
inductive Becomes : Site → Node → Prop
  | text {s around attrs} : Markup.Accounts around attrs.styles →
      Becomes ⟨.text s, around⟩ (.text s attrs)
  | lineBreak {around attrs} : attrs.styles = ∅ → Becomes ⟨.lineBreak, around⟩ (.lineBreak attrs)
  | paragraph {tags around nodes attrs} : attrs.styles = Keyed.singleton .paragraph →
      Becomes ⟨.element .paragraph tags, around⟩ (.group ⟨nodes, attrs⟩)
  | emphasis {markup style tags around nodes attrs} : markup.emphasis? = some style →
      style ∈ attrs.styles → Markup.Accounts (markup :: around) attrs.styles →
        Becomes ⟨.element markup tags, around⟩ (.group ⟨nodes, attrs⟩)
  | codeInline {tags around nodes attrs} : attrs.styles = ∅ →
      Becomes ⟨.element .codeInline tags, around⟩ (.code nodes "" false attrs)
  | codeBlock {language tags around nodes attrs} : attrs.styles = ∅ →
      Becomes ⟨.element (.codeBlock language) tags, around⟩ (.code nodes language true attrs)
  | link {address tags around nodes attrs} : Markup.Accounts around attrs.styles →
      Becomes ⟨.element (.link address) tags, around⟩ (.resolvedLink nodes address attrs)
  | documentationLink {address tags around nodes attrs} : Markup.Accounts around attrs.styles →
      Becomes ⟨.element (.documentationLink address) tags, around⟩ (.driLink nodes address attrs)
  | unorderedList {tags around nodes attrs} : attrs.styles = ∅ →
      Becomes ⟨.element .unorderedList tags, around⟩ (.list nodes false attrs)
  | orderedList {tags around nodes attrs} : attrs.styles = ∅ →
      Becomes ⟨.element .orderedList tags, around⟩ (.list nodes true attrs)
  | listItem {tags around nodes attrs} : Markup.Accounts around attrs.styles →
      Becomes ⟨.element .listItem tags, around⟩ (.group ⟨nodes, attrs⟩)

def IsParagraph (site : Site) : Prop := ∃ tags, site.tag = .element .paragraph tags

theorem Becomes.paragraph_mem_iff {site : Site} {node : Node} (h : site.Becomes node) :
    Style.paragraph ∈ node.styles ↔ site.IsParagraph := by
  have hempty {styles : StyleSet} (hstyles : styles = ∅) : Style.paragraph ∉ styles :=
    hstyles ▸ List.not_mem_nil
  have helement {markup tags around} (hmarkup : markup ≠ .paragraph) :
      ¬ IsParagraph ⟨.element markup tags, around⟩ := by
    rintro ⟨_, htag⟩
    exact hmarkup (DocTag.element.inj htag).1
  rw [Node.styles]
  cases h with
  | text haccounts =>
      rw [Node.attrs_text]
      exact iff_of_false haccounts.paragraph_not_mem (by rintro ⟨_, ⟨⟩⟩)
  | lineBreak hstyles =>
      rw [Node.attrs_lineBreak]
      exact iff_of_false (hempty hstyles) (by rintro ⟨_, ⟨⟩⟩)
  | paragraph hstyles =>
      rw [Node.attrs_group, hstyles]
      exact iff_of_true (List.mem_singleton_self _) ⟨_, rfl⟩
  | emphasis hmarkup _ haccounts =>
      rw [Node.attrs_group]
      refine iff_of_false haccounts.paragraph_not_mem (helement ?_)
      rintro rfl
      cases hmarkup
  | codeInline hstyles | codeBlock hstyles =>
      rw [Node.attrs_code]
      exact iff_of_false (hempty hstyles) (helement nofun)
  | link haccounts =>
      rw [Node.attrs_resolvedLink]
      exact iff_of_false haccounts.paragraph_not_mem (helement nofun)
  | documentationLink haccounts =>
      rw [Node.attrs_driLink]
      exact iff_of_false haccounts.paragraph_not_mem (helement nofun)
  | unorderedList hstyles | orderedList hstyles =>
      rw [Node.attrs_list]
      exact iff_of_false (hempty hstyles) (helement nofun)
  | listItem haccounts =>
      rw [Node.attrs_group]
      exact iff_of_false haccounts.paragraph_not_mem (helement nofun)

end Site

namespace DocTag

variable {attrs : StyleSet → Attrs} {styles : StyleSet} {around : List Markup}

theorem becomes_content (hattrs : ∀ styles, (attrs styles).styles = styles)
    (hstyles : Markup.Accounts around styles) (markup : Markup) {tags : List DocTag}
    {nodes : List Node}
    (h : List.Forall₂ Site.Becomes (sitesAll (markup :: around) tags) (preorderAll nodes)) :
    List.Forall₂ Site.Becomes ((element markup tags).sites around)
      (preorderAll (markup.content attrs styles nodes)) := by
  have hempty : (attrs ∅).styles = ∅ := hattrs ∅
  have haround : Markup.Accounts around (attrs styles).styles := (hattrs styles).symm ▸ hstyles
  have hemphasis {style : Style} (hmarkup : markup.emphasis? = some style) :
      Site.Becomes ⟨element markup tags, around⟩
        (.group ⟨nodes, attrs (markup.inherited styles)⟩) := by
    apply Site.Becomes.emphasis hmarkup
    · rw [hattrs]
      exact Markup.mem_inherited.mpr (.inl hmarkup)
    · rw [hattrs]
      exact hstyles.inherited markup
  have hone (layer : Layer Node) (hnodes : layer.nodes = nodes)
      (hlayer : Site.Becomes ⟨element markup tags, around⟩ ⟨layer⟩) :
      List.Forall₂ Site.Becomes (⟨element markup tags, around⟩ :: sitesAll (markup :: around) tags)
        (preorderAll [⟨layer⟩]) := by
    rw [preorderAll_singleton, hnodes]
    exact .cons hlayer h
  cases markup with
  | paragraph => exact hone _ rfl (.paragraph (hattrs _))
  | bold => exact hone _ rfl (hemphasis rfl)
  | italic => exact hone _ rfl (hemphasis rfl)
  | strikethrough => exact hone _ rfl (hemphasis rfl)
  | codeInline => exact hone _ rfl (.codeInline hempty)
  | codeBlock language => exact hone _ rfl (.codeBlock hempty)
  | link address => exact hone _ rfl (.link haround)
  | documentationLink address => exact hone _ rfl (.documentationLink haround)
  | unorderedList => exact hone _ rfl (.unorderedList hempty)
  | orderedList => exact hone _ rfl (.orderedList hempty)
  | listItem => exact hone _ rfl (.listItem haround)
  | custom name => exact h

/-- Handed only emphasis that stands around it, a tag becomes nodes that have no other styles than
such, paragraphs apart. -/
theorem becomes_preorder_contentIn (hattrs : ∀ styles, (attrs styles).styles = styles)
    (hstyles : Markup.Accounts around styles) (tag : DocTag) :
    List.Forall₂ Site.Becomes (tag.sites around) (preorderAll (tag.contentIn attrs styles)) := by
  induction tag using DocTag.induction generalizing styles around with
  | text s =>
      rw [contentIn, preorderAll_singleton]
      exact .cons (.text ((hattrs styles).symm ▸ hstyles)) .nil
  | lineBreak =>
      rw [contentIn, preorderAll_singleton]
      exact .cons (.lineBreak (hattrs ∅)) .nil
  | element markup children ih =>
      have hinherited := hstyles.inherited markup
      apply becomes_content hattrs hstyles
      induction children with
      | nil => exact .nil
      | cons tag rest ihrest =>
          rw [List.forall_mem_cons] at ih
          rw [sitesAll, contentAllIn, preorderAll, List.flatMap_append]
          exact List.rel_append (ih.1 hinherited) (ihrest ih.2)

/-- All content of a comment, at every depth, has the identity and platforms that it is converted
for, no properties, and a layer that comments may become. Listed in document order, these nodes are
those of the tags other than custom markup. Each has no styles but emphasis around its tag and, if
the tag is a paragraph and only then, the style of paragraphs. -/
theorem toContent_uniform (tag : DocTag) (identity : Identity) (platforms : PlatformSet) :
    let content := tag.toContent identity platforms
    (∀ node ∈ content, ∀ part, ReflTransGen Node.Holds node part →
      part.identity = identity ∧ part.platforms = platforms ∧ part.extra = ∅ ∧
        part.layer.inComments = true) ∧
      (∀ part, part ∈ preorderAll content ↔ ∃ node ∈ content, ReflTransGen Node.Holds node part) ∧
      List.Forall₂
        (fun site node => site.Becomes node ∧ (Style.paragraph ∈ node.styles ↔ site.IsParagraph))
        (tag.sites []) (preorderAll content) := by
  intro content
  have hconverted := throughout_converted_contentIn (commentAttrs identity platforms) ∅ tag
  refine ⟨?_, ?_, ?_⟩
  · intro node hnode part hpart
    obtain ⟨hlayer, styles, hattrs⟩ := hconverted node hnode part hpart
    rw [Node.identity, Node.platforms, Node.extra, hattrs]
    exact ⟨rfl, rfl, rfl, hlayer⟩
  · intro part
    rw [preorderAll, List.mem_flatMap]
    apply exists_congr
    intro node
    apply and_congr_right
    intro hnode
    exact Node.mem_preorder_iff fun part hpart => (hconverted node hnode part hpart).inComments
  · have hsites := becomes_preorder_contentIn
      (fun styles => (rfl : (commentAttrs identity platforms styles).styles = styles))
      Markup.accounts_nil tag
    exact hsites.imp fun site node h => ⟨h, h.paragraph_mem_iff⟩

end DocTag

end DocPages
