import DocPages.Build.Basic
import DocPages.Text.Blank

namespace DocPages

variable [PropertyFamily]

/-- The texts around and between the elements of a list. -/
structure Framing where
  opening : String := ""
  closing : String := ""
  separator : String := ""
deriving DecidableEq, Inhabited

namespace Build

def text (s : String) (params : Params) : Build Unit := do
  push (.text s (← resolve params .main))

def header (level : UInt8) (params : Params) (body : Build Unit) : Build Unit := do
  push (.header level (← nested params .main body))

def buildGroup (params : Params) (body : Build Unit) : Build Group := nested params .main body

def group (params : Params) (body : Build Unit) : Build Unit := do
  push (.group (← buildGroup params body))

/-- A link to an entity, labelled with a text. -/
def link (s : String) (address : Dri) (params : Params) : Build Unit := do
  let attrs ← resolve params .main
  push (.driLink [.text s attrs] address attrs)

/-- A link to an entity around the content that the body builds. -/
def linkContent (address : Dri) (params : Params) (body : Build Unit) : Build Unit := do
  let attrs ← resolve params .main
  let content ← nested params .main body
  push (.driLink content.children address attrs)

def resolvedLink (s : String) (address : String) (params : Params) : Build Unit := do
  let attrs ← resolve params .main
  push (.resolvedLink [.text s attrs] address attrs)

/-- A converted comment in a group of its own. -/
def comment (tag : DocTag) (params : Params) : Build Unit := do
  let attrs ← resolve params .comment
  let tools : Toolkit ← read
  push (.group ⟨tools.comment tag attrs.identity attrs.platforms, attrs⟩)

/-- The signature of an entity, not appended. -/
def signature (documentable : Documentable) : Build Node := do
  let tools : Toolkit ← read
  return tools.signature documentable

/-- A table with a row for each entity, which links to it under its class names. -/
def linkTable (dris : List Dri) (params : Params) : Build Unit := do
  let attrs ← resolve params .main
  let rows ← dris.mapM fun dri =>
    Run.inScope { attrs with dris := Keyed.singleton dri } (link (dri.classNames.getD "") dri {})
  push (.table [] rows attrs)

/-- A table of the rows that the operation returns; whatever else it appends comes before. -/
def table (params : Params) (operation : Build (List Group)) : Build Unit := do
  let attrs ← resolve params .main
  let rows ← operation
  push (.table [] rows attrs)

/-- A titled table with a row for each element, built in a scope of the element's own identity and
platforms. Without elements there is nothing, unless that is to be shown too. -/
def block (name : String) (level : UInt8) (params : Params) (renderWhenEmpty : Bool)
    (elements : List (Documentable × Build Unit)) : Build Unit := do
  unless elements.isEmpty && !renderWhenEmpty do
    header level {} (text name {})
    let attrs ← resolve params .main
    let rows ← elements.mapM fun (documentable, body) =>
      let own := { attrs with
        dris := Keyed.singleton documentable.dri, platforms := documentable.platforms }
      Run.inScope own body
    push (.table [] rows attrs)

/-- A text that frames a list, if there is any. -/
def framingText (s : String) (params : Params) : Build Unit := unless s.isEmpty do text s params

/-- What the operation makes of each element, with the separator between any two. -/
def list {α : Type} (elements : List α) (framing : Framing) (params : Params)
    (operation : α → Build Unit) : Build Unit :=
  match elements with
  | [] => pure ()
  | first :: rest => do
      framingText framing.opening params
      operation first
      rest.forM fun element => do
        text framing.separator params
        operation element
      framingText framing.closing params

/-- A list without framing, with the separator that all scopes share. -/
def listDefault {α : Type} (elements : List α) (operation : α → Build Unit) : Build Unit := do
  let tools : Toolkit ← read
  list elements { separator := tools.listSeparator } {} operation

/-- A nested group that may be rendered differently on each of its platforms. -/
def hint (params : Params) (body : Build Unit) : Build Unit := do
  let g ← buildGroup params body
  push (.platformHinted (.group g) g.attrs.platforms)

/-- A hint for one entity other than those of the scope. -/
def hintFor (dri : Dri) (body : Build Unit) : Build Unit := hint (.ofDri dri) body

/-- A text for each of the given platforms that has a value, unless it is blank. Each text belongs
to its own platform alone. -/
def platformText {β : Type} (values : PlatformDependent β) (platforms : PlatformSet)
    (transform : β → String) : Build Unit :=
  values.toList.forM fun (platform, value) =>
    if platform ∈ platforms && !Text.isBlank (transform value) then
      text (transform value) (.ofPlatform platform)
    else pure ()

/-- A text for each platform that has a value. -/
def platformTextAll {β : Type} (values : PlatformDependent β) (transform : β → String) :
    Build Unit :=
  platformText values values.keys transform

end Build

end DocPages
