import DocPages.Content.Node
import DocPages.DocTag.Content
import Mathlib.Data.List.Basic

namespace DocPages

variable [PropertyFamily]

/-- The values of a scope, by name. -/
inductive ScopeField where
  | dris
  | platforms
  | styles
  | extra
deriving DecidableEq

def Scope.erase (field : ScopeField) (scope : Scope) : Scope :=
  match field with
  | .dris => { scope with dris := ∅ }
  | .platforms => { scope with platforms := ∅ }
  | .styles => { scope with styles := ∅ }
  | .extra => { scope with extra := ∅ }

/-- A set of platforms that stands alone is emptied as that of a scope is. -/
def PlatformSet.erase (field : ScopeField) (platforms : PlatformSet) : PlatformSet :=
  (Scope.erase field { platforms }).platforms

def Attrs.erase (field : ScopeField) (attrs : Attrs) : Attrs :=
  { attrs with toScope := attrs.toScope.erase field }

section layers

variable {ν : Type} (field : ScopeField)

def GroupOf.erase (group : GroupOf ν) : GroupOf ν :=
  { group with attrs := group.attrs.erase field }

def InstanceOf.erase (variant : InstanceOf ν) : InstanceOf ν :=
  ⟨variant.before.map (GroupOf.erase field), variant.divergent.erase field,
    variant.after.map (GroupOf.erase field), variant.attrs.erase field⟩

/-- Empties a value in one layer, and leaves its nodes as they are. -/
def Layer.erase : Layer ν → Layer ν
  | text s attrs => text s (attrs.erase field)
  | lineBreak attrs => lineBreak (attrs.erase field)
  | header level g => header level (g.erase field)
  | code children language block attrs => code children language block (attrs.erase field)
  | group g => group (g.erase field)
  | table cells rows attrs => table cells (rows.map (GroupOf.erase field)) (attrs.erase field)
  | list children ordered attrs => list children ordered (attrs.erase field)
  | driLink children address attrs => driLink children address (attrs.erase field)
  | resolvedLink children address attrs => resolvedLink children address (attrs.erase field)
  | platformHinted inner platforms => platformHinted inner (PlatformSet.erase field platforms)
  | divergentGroup instances attrs =>
      divergentGroup (instances.map (InstanceOf.erase field)) (attrs.erase field)
  | divergentInstance variant => divergentInstance (variant.erase field)

end layers

/-- The tree with one value emptied in every node. -/
def Node.erase (field : ScopeField) : Node → Node := Node.fold fun layer => ⟨layer.erase field⟩

def eraseAll (field : ScopeField) (nodes : List Node) : List Node := nodes.map (Node.erase field)

def eraseGroup (field : ScopeField) (group : Group) : Group :=
  ⟨eraseAll field group.children, group.attrs.erase field⟩

def eraseInstance (field : ScopeField) (variant : Instance) : Instance :=
  ⟨variant.before.map (eraseGroup field), eraseGroup field variant.divergent,
    variant.after.map (eraseGroup field), variant.attrs.erase field⟩

variable {field : ScopeField}

@[simp] theorem eraseAll_nil : eraseAll field [] = [] := rfl

@[simp] theorem eraseAll_cons (node : Node) (nodes : List Node) :
    eraseAll field (node :: nodes) = node.erase field :: eraseAll field nodes := rfl

@[simp] theorem eraseAll_append (front back : List Node) :
    eraseAll field (front ++ back) = eraseAll field front ++ eraseAll field back :=
  List.map_append

namespace Node

@[simp] theorem erase_text (s : String) (attrs : Attrs) :
    (text s attrs).erase field = text s (attrs.erase field) := fold_mk _ _

@[simp] theorem erase_lineBreak (attrs : Attrs) :
    (lineBreak attrs).erase field = lineBreak (attrs.erase field) := fold_mk _ _

@[simp] theorem erase_header (level : UInt8) (g : Group) :
    (header level g).erase field = header level (eraseGroup field g) := fold_mk _ _

@[simp] theorem erase_code (children : List Node) (language : String) (block : Bool)
    (attrs : Attrs) : (code children language block attrs).erase field =
      code (eraseAll field children) language block (attrs.erase field) := fold_mk _ _

@[simp] theorem erase_group (g : Group) : (group g).erase field = group (eraseGroup field g) :=
  fold_mk _ _

@[simp] theorem erase_table (cells : List Node) (rows : List Group) (attrs : Attrs) :
    (table cells rows attrs).erase field =
      table (eraseAll field cells) (rows.map (eraseGroup field)) (attrs.erase field) := by
  rw [Node.erase, fold_mk]
  simp only [Layer.map, Layer.erase, List.map_map]
  rfl

@[simp] theorem erase_list (children : List Node) (ordered : Bool) (attrs : Attrs) :
    (list children ordered attrs).erase field =
      list (eraseAll field children) ordered (attrs.erase field) := fold_mk _ _

@[simp] theorem erase_driLink (children : List Node) (address : Dri) (attrs : Attrs) :
    (driLink children address attrs).erase field =
      driLink (eraseAll field children) address (attrs.erase field) := fold_mk _ _

@[simp] theorem erase_resolvedLink (children : List Node) (address : String) (attrs : Attrs) :
    (resolvedLink children address attrs).erase field =
      resolvedLink (eraseAll field children) address (attrs.erase field) := fold_mk _ _

@[simp] theorem erase_platformHinted (inner : Node) (platforms : PlatformSet) :
    (platformHinted inner platforms).erase field =
      platformHinted (inner.erase field) (PlatformSet.erase field platforms) := fold_mk _ _

@[simp] theorem erase_divergentGroup (instances : List Instance) (attrs : Attrs) :
    (divergentGroup instances attrs).erase field =
      divergentGroup (instances.map (eraseInstance field)) (attrs.erase field) := by
  have hvariant (variant : Instance) :
      (variant.map (Node.erase field)).erase field = eraseInstance field variant := by
    simp only [InstanceOf.map, InstanceOf.erase, Option.map_map]
    rfl
  rw [Node.erase, fold_mk]
  simp only [Layer.map, Layer.erase, List.map_map]
  congr 2
  exact congrArg (fun f => List.map f instances) (funext hvariant)

end Node

theorem toScope_erase_eq {a b : Attrs} (h : a.erase field = b.erase field) :
    a.toScope.erase field = b.toScope.erase field :=
  congrArg Attrs.toScope h

theorem kind_eq_of_erase_eq {a b : Attrs} (h : a.erase field = b.erase field) : a.kind = b.kind :=
  (Attrs.mk.inj h).2

theorem platforms_erase_eq {a b : Scope} (h : a.erase field = b.erase field) :
    PlatformSet.erase field a.platforms = PlatformSet.erase field b.platforms := by
  have hplatforms := congrArg Scope.platforms h
  cases field <;> exact hplatforms

namespace DocTag

theorem eraseAll_content (attrs : StyleSet → Attrs) (styles : StyleSet) (children : List Node)
    (markup : Markup) :
    eraseAll field (markup.content attrs styles children) =
      markup.content (fun styles => (attrs styles).erase field) styles
        (eraseAll field children) := by
  cases markup <;> simp only [Markup.content, eraseAll_cons, eraseAll_nil, Node.erase_group,
    Node.erase_code, Node.erase_list, Node.erase_driLink, Node.erase_resolvedLink, eraseGroup]

theorem eraseAll_contentIn (attrs : StyleSet → Attrs) (styles : StyleSet) (tag : DocTag) :
    eraseAll field (tag.contentIn attrs styles) =
      tag.contentIn (fun styles => (attrs styles).erase field) styles := by
  induction tag using DocTag.induction generalizing styles with
  | text s => simp only [contentIn, eraseAll_cons, Node.erase_text, eraseAll_nil]
  | lineBreak => simp only [contentIn, eraseAll_cons, Node.erase_lineBreak, eraseAll_nil]
  | element markup children ih =>
      have hchildren (styles : StyleSet) :
          eraseAll field (contentAllIn attrs styles children) =
            contentAllIn (fun styles => (attrs styles).erase field) styles children := by
        simp only [contentAllIn_eq_flatMap, eraseAll, List.map_flatMap]
        exact List.flatMap_congr fun tag htag => ih tag htag styles
      rw [contentIn, eraseAll_content, hchildren, contentIn]

theorem eraseAll_toContent_eq {a b : Attrs} (h : a.erase field = b.erase field) (tag : DocTag) :
    eraseAll field (tag.toContent a.identity a.platforms) =
      eraseAll field (tag.toContent b.identity b.platforms) := by
  have hattrs (styles : StyleSet) :
      (commentAttrs a.identity a.platforms styles).erase field =
        (commentAttrs b.identity b.platforms styles).erase field := by
    cases field <;>
      simp_all only [Attrs.erase, Scope.erase, commentAttrs, Attrs.identity, Attrs.mk.injEq,
        Scope.mk.injEq, and_true, true_and]
  rw [toContent, toContent, eraseAll_contentIn, eraseAll_contentIn]
  exact congrArg (fun attrs => tag.contentIn attrs ∅) (funext hattrs)

end DocTag

end DocPages
