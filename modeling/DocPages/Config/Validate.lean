import DocPages.Config.Basic
import DocPages.Text.Blank

namespace DocPages

/-- What values of a configuration can be at fault. -/
inductive ConfigFault where
  | blankName
  | repeatedName (name : String)
  | noStrategies
deriving DecidableEq, Repr

def ConfigFault.message : ConfigFault → String
  | blankName => "platforms.name cannot be empty"
  | repeatedName name => "platform `" ++ name ++ "` is declared more than once"
  | noStrategies => "merge.strategies cannot be empty"

/-- Why there is no configuration. -/
inductive ConfigError where
  | notFound (path : String)
  | unreadable
  | malformed
  | unknownPlatform (name : String) (unknown : UnknownPlatform)
  | invalid (fault : ConfigFault)
deriving DecidableEq, Repr

/-- The text of an error, unless it depends on the file or on its format. -/
def ConfigError.message? : ConfigError → Option String
  | notFound path => some ("Configuration file not found: " ++ path)
  | unreadable => none
  | malformed => none
  | unknownPlatform name unknown => some ("Platform `" ++ name ++ "`: " ++ unknown.message)
  | invalid fault => some ("Configuration error: " ++ fault.message)

/-- The platform that an entry declares. Without targets, its key is the only one. -/
def PlatformEntry.resolve (entry : PlatformEntry) : Except ConfigError PlatformData :=
  match Platform.ofKey entry.platform with
  | .error unknown => .error (.unknownPlatform entry.name unknown)
  | .ok platform =>
      .ok ⟨entry.name, platform, entry.targets.getD [platform.key]⟩

namespace Config

/-- Checks declarations of platforms after those whose names have been seen. -/
def validatePlatforms (seen : List String) : List PlatformEntry → Except ConfigError Unit
  | [] => .ok ()
  | entry :: rest =>
      if Text.isBlank entry.name then .error (.invalid .blankName)
      else if entry.name ∈ seen then .error (.invalid (.repeatedName entry.name))
      else
        match entry.resolve with
        | .error error => .error error
        | .ok _ => validatePlatforms (entry.name :: seen) rest

def validate (config : Config) : Except ConfigError Unit := do
  validatePlatforms [] config.platforms
  if config.merge.strategies.isEmpty then .error (.invalid .noStrategies)

/-- The declared platforms. -/
def platformData (config : Config) : Except ConfigError PlatformSet := do
  return Keyed.ofList (← config.platforms.mapM PlatformEntry.resolve)

end Config

end DocPages
