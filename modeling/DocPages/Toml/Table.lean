import DocPages.Toml.Value

/-!
Building tables from the parts of a TOML document.

While a document is read its tables are open: later parts may add to them. How far depends on how
a table came about, which its `Standing` records. What is written as one value is closed.
-/

namespace DocPages.Toml

/-- How a table came about: by a header of its own, as part of the path to another header, or as
part of a dotted key. A dotted key takes over the tables of the second kind that it leads to. -/
inductive Standing where
  | defined
  | implied
  | dotted
deriving DecidableEq, Inhabited, Repr

/-- An entry of an open table. -/
inductive Entry where
  | value (value : Value)
  | table (standing : Standing) (entries : List (String × Entry))
  /-- Tables under headers in double brackets, the last one first. -/
  | tables (latest : List (String × Entry)) (earlier : List (List (String × Entry)))
deriving Inhabited

abbrev Entries := List (String × Entry)

namespace Entries

def get? (entries : Entries) (key : String) : Option Entry := entries.lookup key

/-- Writes an entry in the place of an old one, or after all others. -/
def put (key : String) (entry : Entry) : Entries → Entries
  | [] => [(key, entry)]
  | (k, old) :: rest => if k = key then (k, entry) :: rest else (k, old) :: put key entry rest

/-- Applies a change to the table that a path of headers leads to. Missing tables are made on the
way, and an array of tables stands for the last of them. -/
def alongHeader (change : Entries → Option Entries) : List String → Entries → Option Entries
  | [], entries => change entries
  | key :: path, entries => do
      let entry ←
        match entries.get? key with
        | none => (alongHeader change path []).map (Entry.table .implied)
        | some (.table standing inner) =>
            (alongHeader change path inner).map (Entry.table standing)
        | some (.tables latest earlier) =>
            (alongHeader change path latest).map fun latest => Entry.tables latest earlier
        | some (.value _) => none
      return entries.put key entry

/-- Opens the table of a header. It may have been implied before, but not have been made in any
other way. -/
def define (key : String) (entries : Entries) : Option Entries :=
  match entries.get? key with
  | none => some (entries.put key (.table .defined []))
  | some (.table .implied inner) => some (entries.put key (.table .defined inner))
  | some _ => none

/-- Opens a further table of an array of tables. -/
def defineNext (key : String) (entries : Entries) : Option Entries :=
  match entries.get? key with
  | none => some (entries.put key (.tables [] []))
  | some (.tables latest earlier) => some (entries.put key (.tables [] (latest :: earlier)))
  | some _ => none

/-- Writes a value under a new key. -/
def putNew (key : String) (value : Value) (entries : Entries) : Option Entries :=
  match entries.get? key with
  | none => some (entries.put key (.value value))
  | some _ => none

/-- Writes a value under a dotted key. The tables on the way are new or have no header of their own,
and count as made by a dotted key from then on. An array of tables stands for the last of them,
which is only led through and not added to. -/
def assign (value : Value) (last : String) : List String → Entries → Option Entries
  | [], entries => entries.putNew last value
  | key :: path, entries => do
      let entry ←
        match entries.get? key with
        | none => (assign value last path []).map (Entry.table .dotted)
        | some (.table .defined _) => none
        | some (.table _ inner) => (assign value last path inner).map (Entry.table .dotted)
        | some (.tables latest earlier) =>
            if path.isEmpty then none
            else (assign value last path latest).map fun latest => Entry.tables latest earlier
        | some (.value _) => none
      return entries.put key entry

end Entries

mutual

/-- The value of an entry, after which nothing can be added to it. -/
def Entry.close : Entry → Value
  | .value value => value
  | .table _ entries => .table (closeAll entries)
  | .tables latest earlier => .array (closeTables earlier [.table (closeAll latest)])

def closeAll : Entries → List (String × Value)
  | [] => []
  | (key, entry) :: rest => (key, entry.close) :: closeAll rest

/-- Puts tables, of which the last comes first, before some values. -/
def closeTables : List Entries → List Value → List Value
  | [], values => values
  | entries :: rest, values => closeTables rest (.table (closeAll entries) :: values)

end

end DocPages.Toml
