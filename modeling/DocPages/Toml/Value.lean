namespace DocPages.Toml

/-- A floating-point number as it is written. -/
inductive FloatLiteral where
  | infinity (negative : Bool)
  | nan (negative : Bool)
  /-- The number `digits * 10 ^ exponent` or its negative. -/
  | decimal (negative : Bool) (digits : Nat) (exponent : Int)
deriving DecidableEq, Inhabited, Repr

/-- Whether a number is written with digits but rounds to infinity in double precision. From
`2 ^ 1024 - 2 ^ 970` on, half a unit above the greatest double, that is so. -/
def FloatLiteral.overflows : FloatLiteral → Bool
  | infinity _ => false
  | nan _ => false
  | decimal _ digits exponent =>
      let places := (Nat.toDigits 10 digits).length + exponent
      if digits = 0 || places < 300 then false
      else if places > 320 then true
      else
        let limit := Nat.pow 2 1024 - Nat.pow 2 970
        if exponent ≥ 0 then digits * Nat.pow 10 exponent.toNat ≥ limit
        else digits ≥ limit * Nat.pow 10 (-exponent).toNat

inductive Value where
  | string (s : String)
  | integer (n : Int)
  /-- A word that begins like a whole number and is none, such as `0x` or `1_a`. A document may
  hold one wherever nothing asks for its value. -/
  | pseudoInteger (written : String)
  | float (x : FloatLiteral)
  | boolean (b : Bool)
  /-- A date, a time or both, as it is written. -/
  | dateTime (written : String)
  | array (elements : List Value)
  | table (members : List (String × Value))
deriving Inhabited

end DocPages.Toml
