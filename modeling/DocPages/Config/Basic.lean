import DocPages.Platform

namespace DocPages

/-- The merging strategies that a configuration can name. -/
inductive StrategyName where
  | sameClassName
  | default
deriving DecidableEq, Inhabited, Repr

namespace StrategyName

/-- The name as it is written in a configuration. -/
def key : StrategyName → String
  | sameClassName => "same-class-name"
  | default => "default"

def all : List StrategyName := [sameClassName, default]

def ofKey? (key : String) : Option StrategyName := all.find? (·.key == key)

end StrategyName

/-- Settings of content building. -/
structure ContentConfig where
  listSeparator : String := ", "
deriving DecidableEq, Inhabited, Repr

/-- Settings of page merging: the strategies in the order in which they are tried. -/
structure MergeConfig where
  strategies : List StrategyName := [.sameClassName, .default]
deriving DecidableEq, Inhabited, Repr

/-- A platform as it is declared, with a key that may name no family. -/
structure PlatformEntry where
  name : String
  platform : String
  targets : Option (List String) := none
deriving DecidableEq, Inhabited, Repr

/-- A configuration, and the path it was read from, if it was read from a file. -/
structure Config where
  content : ContentConfig := {}
  merge : MergeConfig := {}
  platforms : List PlatformEntry := []
  path : Option String := none
deriving DecidableEq, Inhabited, Repr

end DocPages
