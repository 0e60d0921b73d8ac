import DocPages.Config.Basic
import DocPages.Toml.Document

namespace DocPages

open Toml

mutual

/-- Whether a value can be passed over: its whole numbers are numbers and fit into 128 bits, with or
without sign, and its other numbers do not overflow. -/
def Toml.Value.isHeld : Value → Bool
  | .string _ => true
  | .integer n => -(2 ^ 127) ≤ n && n < 2 ^ 128
  | .pseudoInteger _ => false
  | .float x => !x.overflows
  | .boolean _ => true
  | .dateTime _ => true
  | .array elements => allHeld elements
  | .table members => membersHeld members

def allHeld : List Value → Bool
  | [] => true
  | value :: rest => value.isHeld && allHeld rest

def membersHeld : List (String × Value) → Bool
  | [] => true
  | (_, value) :: rest => value.isHeld && membersHeld rest

end

/-- Reads the members of a table that has the given fields: a field's value comes from its member,
if there is one, and all other members can be passed over. -/
def fieldsOf (fields : List String) (members : List (String × Value)) :
    Option (String → Option Value) :=
  if members.all fun (key, value) => fields.contains key || value.isHeld then
    some fun field => members.lookup field
  else none

/-- The fields of a record in order, where those that are not given are absent. A date and time
counts as a table without any of them. -/
def recordFields (fields : List String) : Value → Option (List (Option Value))
  | .table members => do
      let field ← fieldsOf fields members
      return fields.map field
  | .array elements => some ((List.range fields.length).map fun i => elements[i]?)
  | .dateTime _ => some (fields.map fun _ => none)
  | _ => none

def decodeString : Value → Option String
  | .string s => some s
  | _ => none

def decodeList {α : Type} (decode : Value → Option α) : Value → Option (List α)
  | .array elements => elements.mapM decode
  | _ => none

/-- The value of a field, or another one in its absence. -/
def decodeOr {α : Type} (absent : α) (decode : Value → Option α) : Option Value → Option α
  | none => some absent
  | some value => decode value

/-- A strategy is written by its name, or as a table that maps its name to something empty. -/
def StrategyName.decode : Value → Option StrategyName
  | .string key => ofKey? key
  | .table [(key, .table [])] => ofKey? key
  | .table [(key, .array [])] => ofKey? key
  | _ => none

def ContentConfig.decode (value : Value) : Option ContentConfig := do
  match ← recordFields ["list_separator"] value with
  | [separator] =>
      return { listSeparator := ← decodeOr ({} : ContentConfig).listSeparator decodeString separator }
  | _ => none

def MergeConfig.decode (value : Value) : Option MergeConfig := do
  match ← recordFields ["strategies"] value with
  | [strategies] =>
      let decode := decodeList StrategyName.decode
      return { strategies := ← decodeOr ({} : MergeConfig).strategies decode strategies }
  | _ => none

/-- In a table the targets may be left out, in an array they may not. -/
def PlatformEntry.decode (value : Value) : Option PlatformEntry := do
  match ← recordFields ["name", "platform", "targets"] value, value with
  | [some name, some platform, some targets], _ =>
      return ⟨← decodeString name, ← decodeString platform, some (← decodeList decodeString targets)⟩
  | [some name, some platform, none], .table _ =>
      return ⟨← decodeString name, ← decodeString platform, none⟩
  | _, _ => none

/-- The configuration that the members of a document describe. -/
def Config.decode (members : List (String × Value)) : Option Config := do
  let field ← fieldsOf ["content", "merge", "platforms"] members
  return {
    content := ← decodeOr {} ContentConfig.decode (field "content")
    merge := ← decodeOr {} MergeConfig.decode (field "merge")
    platforms := ← decodeOr [] (decodeList PlatformEntry.decode) (field "platforms") }

/-- The configuration in a TOML text, not yet validated. -/
def Config.parse? (text : String) : Option Config := do Config.decode (← document? text)

end DocPages
