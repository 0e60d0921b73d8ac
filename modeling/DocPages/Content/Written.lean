import DocPages.Content.Node
import DocPages.Json

namespace DocPages

open Json

variable [PropertyFamily]

namespace Dri

def toJson (dri : Dri) : Json :=
  object [("package_name", ofOption dri.packageName), ("class_names", ofOption dri.classNames),
    ("callable", ofOption dri.callable), ("extra", ofOption dri.extra)]

end Dri

namespace Kind

/-- The name of a role that is not contributed from outside. -/
def name : Kind → String
  | main => "Main"
  | comment => "Comment"
  | briefComment => "BriefComment"
  | classlikes => "Classlikes"
  | constructors => "Constructors"
  | functions => "Functions"
  | properties => "Properties"
  | packages => "Packages"
  | symbol => "Symbol"
  | signature => "Signature"
  | parameters => "Parameters"
  | modifiers => "Modifiers"
  | annotations => "Annotations"
  | sample => "Sample"
  | source => "Source"
  | empty => "Empty"
  | custom _ => "Custom"

def toJson : Kind → Json
  | custom name => object [("Custom", string name)]
  | kind => string kind.name

end Kind

namespace Style

def name : Style → String
  | bold => "Bold"
  | italic => "Italic"
  | strong => "Strong"
  | strikethrough => "Strikethrough"
  | monospace => "Monospace"
  | paragraph => "Paragraph"
  | block => "Block"
  | indented => "Indented"
  | rowTitle => "RowTitle"
  | tabbedContent => "TabbedContent"
  | withExtraAttributes => "WithExtraAttributes"
  | custom _ => "Custom"

def toJson : Style → Json
  | custom name => object [("Custom", string name)]
  | style => string style.name

end Style

def PlatformData.toJson (data : PlatformData) : Json :=
  object [("name", string data.name), ("platform", string data.platform.key),
    ("targets", array (data.targets.map string))]

def Identity.toJson (identity : Identity) : Json :=
  object [("dri", array (identity.dris.toList.map Dri.toJson)), ("kind", identity.kind.toJson)]

def PlatformSet.toJson (platforms : PlatformSet) : Json :=
  array (platforms.toList.map PlatformData.toJson)

/-- The members that describe the attributes of a node. -/
def Attrs.toMembers (attrs : Attrs) : List (String × Json) :=
  [("dci", attrs.identity.toJson), ("platforms", PlatformSet.toJson attrs.platforms),
    ("style", array (attrs.styles.toList.map Style.toJson))]

def GroupOf.toMembers (group : GroupOf Json) : List (String × Json) :=
  ("children", array group.children) :: group.attrs.toMembers

def GroupOf.toJson (group : GroupOf Json) : Json := object group.toMembers

def InstanceOf.toMembers (variant : InstanceOf Json) : List (String × Json) :=
  let slot : Option (GroupOf Json) → Json
    | none => null
    | some group => group.toJson
  [("before", slot variant.before), ("divergent", variant.divergent.toJson),
    ("after", slot variant.after)] ++ variant.attrs.toMembers

namespace Layer

def typeName {ν : Type} : Layer ν → String
  | text _ _ => "Text"
  | lineBreak _ => "BreakLine"
  | header _ _ => "Header"
  | code _ _ _ _ => "Code"
  | group _ => "Group"
  | table _ _ _ => "Table"
  | list _ _ _ => "List"
  | driLink _ _ _ => "DriLink"
  | resolvedLink _ _ _ => "ResolvedLink"
  | platformHinted _ _ => "PlatformHinted"
  | divergentGroup _ _ => "DivergentGroup"
  | divergentInstance _ => "DivergentInstance"

/-- The members of a node apart from its type. -/
def toMembers : Layer Json → List (String × Json)
  | text s attrs => ("text", string s) :: attrs.toMembers
  | lineBreak attrs => attrs.toMembers
  | header level g => [("level", number level.toNat), ("group", g.toJson)]
  | code children language block attrs =>
      [("children", array children), ("language", string language), ("block", bool block)] ++
        attrs.toMembers
  | group g => g.toMembers
  | table cells rows attrs =>
      [("header", array cells), ("rows", array (rows.map GroupOf.toJson))] ++ attrs.toMembers
  | list children ordered attrs =>
      [("children", array children), ("ordered", bool ordered)] ++ attrs.toMembers
  | driLink children address attrs =>
      [("children", array children), ("address", address.toJson)] ++ attrs.toMembers
  | resolvedLink children address attrs =>
      [("children", array children), ("address", string address)] ++ attrs.toMembers
  | platformHinted inner platforms =>
      [("inner", inner), ("platforms", PlatformSet.toJson platforms)]
  | divergentGroup instances attrs =>
      ("instances", array (instances.map fun variant => object variant.toMembers)) ::
        attrs.toMembers
  | divergentInstance variant => variant.toMembers

def toJson (layer : Layer Json) : Json :=
  object (("type", string layer.typeName) :: layer.toMembers)

end Layer

def Node.toJson : Node → Json := Node.fold Layer.toJson

end DocPages
