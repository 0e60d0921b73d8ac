namespace DocPages.Toml

/-- A reader of values; its state is what is left of the text. -/
abbrev Reader := StateT (List Char) Option

namespace Reader

variable {α : Type}

def refuse : Reader α := fun _ => none

/-- The next character, left in place. -/
def peek? : Reader (Option Char) := return (← get).head?

def satisfy (p : Char → Bool) : Reader Char
  | [] => none
  | c :: rest => if p c then some (c, rest) else none

def char (c : Char) : Reader Unit := do
  let _ ← satisfy (· == c)

/-- Reads exactly the given characters. -/
def word : List Char → Reader Unit
  | [] => pure ()
  | c :: rest => do
      char c
      word rest

def takeWhile (p : Char → Bool) : Reader (List Char) := fun text =>
  some (text.takeWhile p, text.dropWhile p)

/-- Reads a run of at least one character. -/
def run (p : Char → Bool) : Reader (List Char) := do
  let chars ← takeWhile p
  if chars.isEmpty then refuse
  return chars

/-- Whether the text goes on with the given characters; they are left in place. -/
def startsWith (expected : List Char) : Reader Bool := return expected.isPrefixOf (← get)

/-- Reads the given characters if they come next. -/
def accept (expected : List Char) : Reader Bool := fun text =>
  if expected.isPrefixOf text then some (true, text.drop expected.length) else some (false, text)

def atEnd : Reader Bool := return (← get).isEmpty

/-- Reads as many values as possible, but no more than a text has characters. -/
def manyAlong (p : Reader α) : List Char → Reader (List α)
  | [] => pure []
  | _ :: bound => fun text =>
      match p text with
      | none => some ([], text)
      | some (a, rest) => (fun (as, rest) => (a :: as, rest)) <$> manyAlong p bound rest

/-- Reads as many values as possible, one after another. Each takes at least one character. -/
def many (p : Reader α) : Reader (List α) := fun text => manyAlong p text text

/-- Reads exactly `n` values. -/
def exactly (p : Reader α) : Nat → Reader (List α)
  | 0 => pure []
  | n + 1 => do
      let a ← p
      let as ← exactly p n
      return a :: as

end Reader

/-- Spaces and tabs. -/
def isSpace (c : Char) : Bool := c == ' ' || c == '\t'

/-- Characters of texts and comments: all but controls, of which the tab alone is allowed. -/
def isTextChar (c : Char) : Bool := c == '\t' || (0x20 ≤ c.toNat && c.toNat ≠ 0x7F)

open Reader

def skipSpaces : Reader Unit := do
  let _ ← takeWhile isSpace

/-- The end of a line: a line feed, or a carriage return and a line feed. -/
def lineEnd : Reader (List Char) := do
  if ← accept ['\r', '\n'] then return ['\r', '\n']
  char '\n'
  return ['\n']

/-- A comment up to the end of its line. -/
def comment : Reader Unit := do
  char '#'
  let _ ← takeWhile isTextChar

/-- The rest of a line that holds nothing more: spaces, a comment, and the end of the line or of
the whole text. -/
def lineRest : Reader Unit := do
  skipSpaces
  if (← peek?) == some '#' then comment
  unless ← atEnd do
    let _ ← lineEnd

/-- One piece of what may stand between the parts of an array: spaces, an end of line, or a
comment. -/
def gapPiece : Reader Unit := do
  match ← peek? with
  | some '#' => comment
  | some c =>
      if isSpace c then skipSpaces
      else
        let _ ← lineEnd
  | none => refuse

def skipGap : Reader Unit := do
  let _ ← many gapPiece

end DocPages.Toml
