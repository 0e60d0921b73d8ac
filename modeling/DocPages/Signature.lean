import DocPages.Content.Node
import DocPages.Documentable
import DocPages.Text.Lowercase

namespace DocPages.Documentable

variable [PropertyFamily]

/-- The entity's modifiers in lower case, each followed by a space. -/
def additionalModifiers (documentable : Documentable) : String :=
  String.join (documentable.extra.modifiers.map fun word => Text.lowercase word ++ " ")

/-- A function signature without parameters: the modifiers, the word `fun` and the name. -/
def functionSignature (documentable : Documentable) : Node :=
  .text (documentable.additionalModifiers ++ "fun " ++ documentable.name.getD "")
    { dris := Keyed.singleton documentable.dri, kind := .signature,
      platforms := documentable.platforms }

end DocPages.Documentable
