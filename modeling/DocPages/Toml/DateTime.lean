import DocPages.Toml.Reader

namespace DocPages.Toml

open Reader

/-- A number of exactly `n` decimal digits that lies between two bounds. -/
def digitsBetween (n low high : Nat) : Reader Nat := do
  let digits ← exactly (satisfy Char.isDigit) n
  let number := digits.foldl (fun number c => number * 10 + (c.toNat - '0'.toNat)) 0
  if low ≤ number && number ≤ high then return number
  refuse

def isLeapYear (year : Nat) : Bool := year % 4 == 0 && (year % 100 != 0 || year % 400 == 0)

def daysIn (year month : Nat) : Nat :=
  if month == 2 then if isLeapYear year then 29 else 28
  else if [4, 6, 9, 11].contains month then 30
  else 31

/-- A date, as in `1979-05-27`. -/
def date : Reader Unit := do
  let year ← digitsBetween 4 0 9999
  char '-'
  let month ← digitsBetween 2 1 12
  char '-'
  let _ ← digitsBetween 2 1 (daysIn year month)

/-- A time of day, as in `07:32`, `07:32:00` or `07:32:00.5`. -/
def time : Reader Unit := do
  let _ ← digitsBetween 2 0 23
  char ':'
  let _ ← digitsBetween 2 0 59
  if ← accept [':'] then
    let _ ← digitsBetween 2 0 60
    if ← accept ['.'] then
      let _ ← run Char.isDigit

/-- The offset from universal time, as in `Z` or `-07:00`. -/
def offset : Reader Unit := do
  let sign ← satisfy fun c => c == 'Z' || c == 'z' || c == '+' || c == '-'
  if sign == '+' || sign == '-' then
    let _ ← digitsBetween 2 0 23
    char ':'
    let _ ← digitsBetween 2 0 59

def dateTime : Reader Unit := do
  if (← get)[2]? == some ':' then time
  else
    date
    unless ← atEnd do
      let _ ← satisfy fun c => c == 'T' || c == 't' || c == ' '
      time
      unless ← atEnd do offset

/-- Whether a word is a date, a time or both. -/
def isDateTime (word : List Char) : Bool :=
  match dateTime word with
  | some ((), []) => true
  | _ => false

end DocPages.Toml
