import DocPages.Toml.DateTime
import DocPages.Toml.Number
import DocPages.Toml.Table
import DocPages.Toml.Text

namespace DocPages.Toml

open Reader

/-- How deep arrays and inline tables may be nested, and how many parts a key may have. -/
def nestingLimit : Nat := 80

def isBareKeyChar (c : Char) : Bool := c.isAlphanum || c == '_' || c == '-'

def simpleKey : Reader String := do
  match ← peek? with
  | some '"' => basicString
  | some '\'' => literalString
  | _ => return String.ofList (← run isBareKeyChar)

/-- A key and all of its parts, which points part from each other. -/
def key : Reader (List String) := do
  let first ← simpleKey
  let rest ← many do
    skipSpaces
    char '.'
    skipSpaces
    simpleKey
  if rest.length < nestingLimit then return first :: rest
  refuse

/-- The values that are written without quotes or brackets: numbers, dates and times, and truth
values. -/
def plainValue? (word : List Char) : Option Value :=
  if word = "true".toList then some (.boolean true)
  else if word = "false".toList then some (.boolean false)
  else if isDateTime word then some (.dateTime (String.ofList word))
  else
    match integer? word, float? word with
    | some n, _ => some (.integer n)
    | none, some x => some (.float x)
    | none, none =>
        if resemblesInteger word then some (.pseudoInteger (String.ofList word)) else none

/-- The characters of a word: all but space, ends of lines and the marks between values. -/
def isWordChar (c : Char) : Bool := !"=,[]\x7b\x7d# \t\r\n".contains c

/-- A word with all further words that follow it after nothing but space. -/
def phrase : Reader (List Char) := do
  let first ← run isWordChar
  let further ← many do
    let space ← run isSpace
    match ← peek? with
    | some '"' | some '\'' => refuse
    | _ => return space ++ (← run isWordChar)
  return first ++ further.flatten

def plainValue : Reader Value := do
  match plainValue? (← phrase) with
  | some value => return value
  | none => refuse

/-- The rest of values parted by commas, up to the closing character, but no more values than a
text has characters. One more comma may follow the last value. -/
def elementsAlong {α : Type} (closing : Char) (element : Reader α) : List Char → Reader (List α)
  | [] => refuse
  | _ :: bound => do
      if ← accept [closing] then return []
      let a ← element
      skipGap
      if ← accept [','] then
        skipGap
        return a :: (← elementsAlong closing element bound)
      char closing
      return [a]

/-- Values between brackets, parted by commas. -/
def elements {α : Type} (opening closing : Char) (element : Reader α) : Reader (List α) := do
  char opening
  skipGap
  elementsAlong closing element (← get)

/-- A key and the value assigned to it, with what may stand around the sign between them. -/
def assignment (gap : Reader Unit) (value : Reader Value) : Reader (List String × Value) := do
  let path ← key
  gap
  char '='
  gap
  return (path, ← value)

/-- Writes values under their keys, in order. -/
def assignAll (entries : Entries) : List (List String × Value) → Option Entries
  | [] => some entries
  | (path, value) :: rest => do
      let last ← path.getLast?
      assignAll (← entries.assign value last path.dropLast) rest

def inlineTable (value : Reader Value) : Reader Value := do
  let assignments ← elements '{' '}' (assignment skipGap value)
  match assignAll [] assignments with
  | some entries => return .table (closeAll entries)
  | none => refuse

/-- A value whose arrays and inline tables are nested to a limited depth. -/
def valueWithin : Nat → Reader Value
  | 0 => do
      match ← peek? with
      | some '"' | some '\'' => return .string (← string)
      | _ => plainValue
  | depth + 1 => do
      match ← peek? with
      | some '"' | some '\'' => return .string (← string)
      | some '[' => return .array (← elements '[' ']' (valueWithin depth))
      | some '{' => inlineTable (valueWithin depth)
      | _ => plainValue

def value : Reader Value := valueWithin nestingLimit

/-- A part of a document. -/
inductive Part where
  | header (path : List String)
  /-- The header of one table of an array. -/
  | nextHeader (path : List String)
  | assignment (path : List String) (value : Value)

def part : Reader Part := do
  if ← accept ['[', '['] then
    skipSpaces
    let path ← key
    skipSpaces
    word [']', ']']
    return .nextHeader path
  else if ← accept ['['] then
    skipSpaces
    let path ← key
    skipSpaces
    char ']'
    return .header path
  else
    let (path, value) ← assignment skipSpaces value
    return .assignment path value

/-- A line that holds at most one part. -/
def line : Reader (List Part) := do
  if ← atEnd then refuse
  skipSpaces
  let parts ←
    match ← peek? with
    | none | some '#' | some '\n' | some '\r' => pure []
    | some _ => do
        let part ← part
        pure [part]
  lineRest
  return parts

/-- All parts of a document, before which a byte order mark may stand. -/
def parts : Reader (List Part) := do
  let _ ← accept ['\uFEFF']
  let lines ← many line
  if ← atEnd then return lines.flatten
  refuse

/-- A document as far as it is built, and the path of the last header. -/
structure Draft where
  entries : Entries := []
  current : List String := []

namespace Draft

/-- Adds a part to a document; assignments go to the table of the last header. -/
def add (draft : Draft) : Part → Option Draft
  | .header path => do
      let last ← path.getLast?
      let entries ← draft.entries.alongHeader (Entries.define last) path.dropLast
      return ⟨entries, path⟩
  | .nextHeader path => do
      let last ← path.getLast?
      let entries ← draft.entries.alongHeader (Entries.defineNext last) path.dropLast
      return ⟨entries, path⟩
  | .assignment path value => do
      let last ← path.getLast?
      let entries ←
        draft.entries.alongHeader (Entries.assign value last path.dropLast) draft.current
      return { draft with entries }

end Draft

/-- The members of the table that a document describes. -/
def document? (text : String) : Option (List (String × Value)) := do
  let (parts, _) ← parts text.toList
  let draft ← parts.foldlM Draft.add {}
  return closeAll draft.entries

end DocPages.Toml
