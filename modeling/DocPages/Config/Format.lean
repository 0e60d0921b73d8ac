import DocPages.Config.Validate
import DocPages.FileSystem

namespace DocPages

namespace Config

/-- The path at which a directory has its configuration. -/
def pathIn (dir : Location) : String := "/" ++ "/".intercalate (dir ++ ["docforge.toml"])

def entryIn? (files : FileSystem) (dir : Location) : Option FileEntry :=
  files.lookUp [] (pathIn dir)

/-- The nearest directory with a configuration, seen from a current directory. -/
def discover? (files : FileSystem) (current : Location) : Option Location :=
  current.upwards.find? fun dir => (entryIn? files dir).isSome

end Config

/-- A format of configurations: which texts are well-formed, and the values in them. -/
abbrev ConfigFormat := String → Option Config

namespace ConfigFormat

open Config

variable (format : ConfigFormat)

/-- The valid configuration in a text. -/
def ofText (text : String) : Except ConfigError Config :=
  match format text with
  | none => .error .malformed
  | some config => do
      config.validate
      return config

/-- The configuration in what was found at a path. -/
def read (path : String) : FileEntry → Except ConfigError Config
  | .directory | .locked => .error .unreadable
  | .file content =>
      match String.fromUTF8? content with
      | none => .error .unreadable
      | some text => do
          let config ← format.ofText text
          return { config with path := some path }

/-- The configuration at a path, seen from a current directory. -/
def loadFile (files : FileSystem) (current : Location) (path : String) :
    Except ConfigError Config :=
  match files.lookUp current path with
  | none => .error .unreadable
  | some entry => format.read path entry

/-- Loads the configuration at a path, or the nearest one; without any, all values are the usual
ones. -/
def load (files : FileSystem) (current : Location) : Option String → Except ConfigError Config
  | some path =>
      if (files.lookUp current path).isSome then format.loadFile files current path
      else .error (.notFound path)
  | none =>
      match discover? files current with
      | none => .ok {}
      | some dir => format.loadFile files [] (pathIn dir)

end ConfigFormat

end DocPages
