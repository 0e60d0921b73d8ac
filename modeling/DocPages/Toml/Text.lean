import DocPages.Toml.Reader

namespace DocPages.Toml

open Reader

def hexDigit? (c : Char) : Option Nat :=
  if '0' ≤ c ∧ c ≤ '9' then some (c.toNat - '0'.toNat)
  else if 'a' ≤ c ∧ c ≤ 'f' then some (c.toNat - 'a'.toNat + 10)
  else if 'A' ≤ c ∧ c ≤ 'F' then some (c.toNat - 'A'.toNat + 10)
  else none

/-- The number that digits of a base stand for, the most significant first. -/
def numberOf (base : Nat) (digits : List Nat) : Nat :=
  digits.foldl (fun n digit => n * base + digit) 0

/-- A character given by `n` hexadecimal digits; surrogates are none. -/
def scalar (n : Nat) : Reader Char := do
  let digits ← exactly (satisfy fun c => (hexDigit? c).isSome) n
  let number := numberOf 16 (digits.filterMap hexDigit?)
  if number.isValidChar then return Char.ofNat number
  refuse

/-- The character that stands after a backslash. -/
def escape : Reader Char := do
  match ← satisfy fun _ => true with
  | 'b' => return '\x08'
  | 't' => return '\t'
  | 'n' => return '\n'
  | 'f' => return '\x0c'
  | 'r' => return '\r'
  | 'e' => return '\x1b'
  | '"' => return '"'
  | '\\' => return '\\'
  | 'x' => scalar 2
  | 'u' => scalar 4
  | 'U' => scalar 8
  | _ => refuse

def basicPiece : Reader (List Char) := do
  if ← accept ['\\'] then return [← escape]
  run fun c => isTextChar c && c != '"' && c != '\\'

/-- A string on one line with escapes. -/
def basicString : Reader String := do
  char '"'
  let pieces ← many basicPiece
  char '"'
  return String.ofList pieces.flatten

/-- A string on one line that stands for itself. -/
def literalString : Reader String := do
  char '\''
  let text ← takeWhile fun c => isTextChar c && c != '\''
  char '\''
  return String.ofList text

/-- A backslash before the end of a line, which is left out with all space up to the next text. -/
def joinedLines : Reader Unit := do
  skipSpaces
  let _ ← lineEnd
  let _ ← many do
    match ← peek? with
    | some c =>
        if isSpace c then skipSpaces
        else
          let _ ← lineEnd
    | none => refuse

/-- A quote in a string on several lines, which does not belong to three in a row. -/
def innerQuote (quote : Char) : Reader (List Char) := do
  if ← startsWith [quote, quote, quote] then refuse
  char quote
  return [quote]

def multilineBasicPiece : Reader (List Char) := do
  match ← peek? with
  | some '\\' =>
      char '\\'
      match ← peek? with
      | some c =>
          if isSpace c || c == '\n' || c == '\r' then
            joinedLines
            return []
          else return [← escape]
      | none => refuse
  | some '"' => innerQuote '"'
  | some c =>
      if isTextChar c then run fun c => isTextChar c && c != '"' && c != '\\' else lineEnd
  | none => refuse

def multilineLiteralPiece : Reader (List Char) := do
  match ← peek? with
  | some '\'' => innerQuote '\''
  | some c => if isTextChar c then run fun c => isTextChar c && c != '\'' else lineEnd
  | none => refuse

/-- A string on several lines. An end of line right after the opening quotes is left out, and up
to two quotes may stand before the closing ones. -/
def multiline (quote : Char) (piece : Reader (List Char)) : Reader String := do
  word [quote, quote, quote]
  match ← peek? with
  | some '\n' | some '\r' =>
      let _ ← lineEnd
  | _ => pure ()
  let pieces ← many piece
  let quotes ← takeWhile (· == quote)
  if 3 ≤ quotes.length && quotes.length ≤ 5 then
    return String.ofList (pieces.flatten ++ quotes.drop 3)
  refuse

/-- A string in any of its forms. -/
def string : Reader String := do
  if ← startsWith ['"', '"', '"'] then multiline '"' multilineBasicPiece
  else if ← startsWith ['\'', '\'', '\''] then multiline '\'' multilineLiteralPiece
  else if ← startsWith ['"'] then basicString
  else literalString

end DocPages.Toml
