import DocPages.DocTag
import DocPages.Platform
import DocPages.Properties

namespace DocPages

/-- What content building sees of a source entity; an anonymous one has no name. -/
structure Documentable [PropertyFamily] where
  dri : Dri := .topLevel
  name : Option String := none
  platforms : PlatformSet := ∅
  extra : Properties := ∅
deriving DecidableEq, Inhabited

inductive DeclarationKind where
  | module
  | package
  | classType
  | interface
  | object
  | enum
  | annotationType
  | function
  | property
  | parameter
  | typeAlias
deriving DecidableEq, Inhabited, Repr

/-- Whether pages for declarations of this kind are class-like. -/
def DeclarationKind.isClasslike : DeclarationKind → Bool
  | classType | interface | object | enum | annotationType => true
  | _ => false

/-- A declaration in the source, with its documentation and modifiers on each platform. -/
structure Declaration [PropertyFamily] extends Documentable where
  kind : DeclarationKind := .function
  documentation : PlatformDependent DocTag := ∅
  modifiers : PlatformDependent String := ∅
  children : List Declaration := []
deriving Inhabited

end DocPages
