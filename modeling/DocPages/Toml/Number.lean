import DocPages.Toml.Text
import DocPages.Toml.Value

namespace DocPages.Toml

/-- The digits of a number, in which single underscores may stand between two digits. -/
def ungrouped? (isDigit : Char → Bool) : List Char → Option (List Char)
  | [] => none
  | [c] => if isDigit c then some [c] else none
  | c :: '_' :: rest => if isDigit c then (ungrouped? isDigit rest).map (c :: ·) else none
  | c :: rest => if isDigit c then (ungrouped? isDigit rest).map (c :: ·) else none

def naturalOf (base : Nat) (digits : List Char) : Nat := numberOf base (digits.filterMap hexDigit?)

def isOctal (c : Char) : Bool := '0' ≤ c && c ≤ '7'

def isBinary (c : Char) : Bool := c == '0' || c == '1'

def isHex (c : Char) : Bool := (hexDigit? c).isSome

/-- Decimal digits without a superfluous zero in front. -/
def decimalDigits? (word : List Char) : Option (List Char) := do
  let digits ← ungrouped? Char.isDigit word
  match digits with
  | '0' :: _ :: _ => none
  | _ => some digits

/-- A sign, if there is one, and the rest; true stands for a minus. -/
def splitSign : List Char → Bool × List Char
  | '-' :: rest => (true, rest)
  | '+' :: rest => (false, rest)
  | word => (false, word)

def signed (negative : Bool) (n : Nat) : Int := if negative then -n else n

def integer? (word : List Char) : Option Int :=
  match word with
  | '0' :: 'x' :: rest => (ungrouped? isHex rest).map fun digits => naturalOf 16 digits
  | '0' :: 'o' :: rest => (ungrouped? isOctal rest).map fun digits => naturalOf 8 digits
  | '0' :: 'b' :: rest => (ungrouped? isBinary rest).map fun digits => naturalOf 2 digits
  | _ =>
      let (negative, rest) := splitSign word
      (decimalDigits? rest).map fun digits => signed negative (naturalOf 10 digits)

/-- Whether each underscore stands between two hexadecimal digits. -/
def isGrouped : List Char → Bool
  | [] => true
  | '_' :: _ => false
  | [_] => true
  | [_, '_'] => false
  | a :: '_' :: b :: rest => isHex a && isHex b && isGrouped (b :: rest)
  | _ :: b :: rest => isGrouped (b :: rest)

/-- Whether a word passes for a whole number as long as nothing asks for its value. After the mark
of a base it may have any of its digits, or none. Otherwise it has decimal digits up to its first
underscore, and of what follows, tabs included, only the characters next to underscores matter,
unless there is a space or the sign of a fraction or an exponent. -/
def resemblesInteger (word : List Char) : Bool :=
  let digitsOf (isDigit : Char → Bool) (body : List Char) : Bool :=
    body.all (fun c => isDigit c || c == '_') && isGrouped body
  match word with
  | '0' :: 'x' :: body => digitsOf isHex body
  | '0' :: 'o' :: body => digitsOf isOctal body
  | '0' :: 'b' :: body => digitsOf isBinary body
  | _ =>
      let (_, rest) := splitSign word
      let tail := rest.dropWhile Char.isDigit
      rest.head? != some '0' && tail.head? == some '_' &&
        tail.all (fun c => !" .eE".contains c) && isGrouped word

/-- The exponent at the end of a number. -/
def exponent? : List Char → Option Int
  | c :: rest =>
      if c == 'e' || c == 'E' then
        let (negative, rest) := splitSign rest
        (ungrouped? Char.isDigit rest).map fun digits => signed negative (naturalOf 10 digits)
      else none
  | [] => none

/-- A number with a fraction, an exponent or both, or one of the special numbers. -/
def float? (word : List Char) : Option FloatLiteral := do
  let (negative, rest) := splitSign word
  match rest with
  | ['i', 'n', 'f'] => return .infinity negative
  | ['n', 'a', 'n'] => return .nan negative
  | _ =>
      let isGroup (c : Char) : Bool := c.isDigit || c == '_'
      let whole ← decimalDigits? (rest.takeWhile isGroup)
      match rest.dropWhile isGroup with
      | '.' :: rest =>
          let fraction ← ungrouped? Char.isDigit (rest.takeWhile isGroup)
          let rest := rest.dropWhile isGroup
          let exponent ← if rest.isEmpty then some 0 else exponent? rest
          return .decimal negative (naturalOf 10 (whole ++ fraction)) (exponent - fraction.length)
      | rest => return .decimal negative (naturalOf 10 whole) (← exponent? rest)

end DocPages.Toml
