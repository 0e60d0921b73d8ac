import DocPages.Content.Node
import DocPages.Text.Blank

namespace DocPages

variable [PropertyFamily]

/-- Whether any child of a group is visible. -/
def GroupOf.anyVisible (group : GroupOf Bool) : Bool := group.children.any id

/-- Whether a layer shows something, given whether its nodes do. Blank text and line breaks show
nothing, and of a divergent instance only the divergent part counts. -/
def Layer.visible : Layer Bool → Bool
  | text s _ => !Text.isBlank s
  | lineBreak _ => false
  | header _ g => g.anyVisible
  | code children _ _ _ => children.any id
  | group g => g.anyVisible
  | table cells rows _ => cells.any id || rows.any GroupOf.anyVisible
  | list children _ _ => children.any id
  | driLink children _ _ => children.any id
  | resolvedLink children _ _ => children.any id
  | platformHinted inner _ => inner
  | divergentGroup instances _ => instances.any (·.divergent.anyVisible)
  | divergentInstance variant => variant.divergent.anyVisible

def Node.hasAnyContent : Node → Bool := Node.fold Layer.visible

def GroupOf.hasAnyContent (group : Group) : Bool := group.children.any Node.hasAnyContent

theorem anyVisible_map (group : Group) :
    (group.map Node.hasAnyContent).anyVisible = group.hasAnyContent := by
  simp [GroupOf.anyVisible, GroupOf.map, GroupOf.hasAnyContent]

namespace Node

@[simp] theorem hasAnyContent_text (s : String) (attrs : Attrs) :
    (text s attrs).hasAnyContent = !Text.isBlank s :=
  fold_mk _ _

@[simp] theorem hasAnyContent_lineBreak (attrs : Attrs) :
    (lineBreak attrs).hasAnyContent = false :=
  fold_mk _ _

@[simp] theorem hasAnyContent_header (level : UInt8) (g : Group) :
    (header level g).hasAnyContent = g.hasAnyContent :=
  (fold_mk _ _).trans (anyVisible_map g)

@[simp] theorem hasAnyContent_code (children : List Node) (language : String) (block : Bool)
    (attrs : Attrs) :
    (code children language block attrs).hasAnyContent = children.any hasAnyContent :=
  (fold_mk _ _).trans (anyVisible_map ⟨children, attrs⟩)

@[simp] theorem hasAnyContent_group (g : Group) : (group g).hasAnyContent = g.hasAnyContent :=
  (fold_mk _ _).trans (anyVisible_map g)

@[simp] theorem hasAnyContent_table (cells : List Node) (rows : List Group) (attrs : Attrs) :
    (table cells rows attrs).hasAnyContent =
      (cells.any hasAnyContent || rows.any GroupOf.hasAnyContent) := by
  rw [hasAnyContent, fold_mk]
  simp only [Layer.map, Layer.visible, List.any_map]
  congr 2
  funext row
  exact anyVisible_map row

@[simp] theorem hasAnyContent_list (children : List Node) (ordered : Bool) (attrs : Attrs) :
    (list children ordered attrs).hasAnyContent = children.any hasAnyContent :=
  (fold_mk _ _).trans (anyVisible_map ⟨children, attrs⟩)

@[simp] theorem hasAnyContent_driLink (children : List Node) (address : Dri) (attrs : Attrs) :
    (driLink children address attrs).hasAnyContent = children.any hasAnyContent :=
  (fold_mk _ _).trans (anyVisible_map ⟨children, attrs⟩)

@[simp] theorem hasAnyContent_resolvedLink (children : List Node) (address : String)
    (attrs : Attrs) :
    (resolvedLink children address attrs).hasAnyContent = children.any hasAnyContent :=
  (fold_mk _ _).trans (anyVisible_map ⟨children, attrs⟩)

@[simp] theorem hasAnyContent_platformHinted (inner : Node) (platforms : PlatformSet) :
    (platformHinted inner platforms).hasAnyContent = inner.hasAnyContent :=
  fold_mk _ _

@[simp] theorem hasAnyContent_divergentGroup (instances : List Instance) (attrs : Attrs) :
    (divergentGroup instances attrs).hasAnyContent =
      instances.any (·.divergent.hasAnyContent) := by
  rw [hasAnyContent, fold_mk]
  simp only [Layer.map, Layer.visible, List.any_map]
  congr 1
  funext variant
  exact anyVisible_map variant.divergent

@[simp] theorem hasAnyContent_divergentInstance (variant : Instance) :
    (divergentInstance variant).hasAnyContent = variant.divergent.hasAnyContent :=
  (fold_mk _ _).trans (anyVisible_map variant.divergent)

end Node

end DocPages
