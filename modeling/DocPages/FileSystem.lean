namespace DocPages

/-- The names on the way down from the root. -/
abbrev Location := List String

namespace Location

/-- Where one part of a path leads from a directory. -/
def step (place : Location) (part : String) : Location :=
  if part = "" ∨ part = "." then place
  else if part = ".." then place.dropLast
  else place ++ [part]

/-- The places on the way along the parts of a path, from the first to the last. -/
def along (place : Location) : List String → List Location
  | [] => [place]
  | part :: rest => place :: (place.step part).along rest

/-- A place and all places above it, the innermost first. -/
def upwards : Location → List Location
  | [] => [[]]
  | name :: rest => (upwards rest).map (name :: ·) ++ [[]]

end Location

inductive FileEntry where
  | file (content : ByteArray)
  /-- A file whose content nobody may read. -/
  | locked
  | directory

abbrev FileSystem := Location → Option FileEntry

namespace FileSystem

/-- The file system with the given entries, and with directories on the way to each. Of several
entries for one place the last one counts. -/
def ofEntries (entries : List (Location × FileEntry)) : FileSystem := fun place =>
  match entries.reverse.lookup place with
  | some entry => some entry
  | none => if entries.any fun (below, _) => place.isPrefixOf below then some .directory else none

def isDirectory (files : FileSystem) (place : Location) : Bool :=
  match files place with
  | some .directory => true
  | _ => false

/-- The place that a path leads to, seen from a current directory, if there is something. -/
def resolve? (files : FileSystem) (place : Location) : List String → Option Location
  | [] => if (files place).isSome then some place else none
  | part :: rest =>
      if files.isDirectory place then files.resolve? (place.step part) rest else none

/-- How many bytes a path may have. -/
def pathLimit : Nat := 4095

/-- The parts of a path, which slashes separate. -/
def partsOf (path : String) : List String := (path.toList.splitOn '/').map String.ofList

/-- What a path leads to, seen from a current directory. The empty path and one that is too long
lead nowhere, and one that starts with a slash is seen from the root. -/
def lookUp (files : FileSystem) (current : Location) (path : String) : Option FileEntry :=
  if path.isEmpty || path.utf8ByteSize > pathLimit then none
  else
    let start := if path.toList.head? = some '/' then [] else current
    (files.resolve? start (partsOf path)).bind files

end FileSystem

end DocPages
