namespace DocPages.Text

/-- The characters of the Unicode property White_Space. -/
def isBlankChar (c : Char) : Bool :=
  let n := c.toNat
  (9 ≤ n && n ≤ 13) || n = 0x20 || n = 0x85 || n = 0xA0 || n = 0x1680 ||
    (0x2000 ≤ n && n ≤ 0x200A) || n = 0x2028 || n = 0x2029 || n = 0x202F || n = 0x205F ||
    n = 0x3000

/-- Whether no visible character occurs. -/
def isBlank (text : String) : Bool := text.toList.all isBlankChar

@[simp] theorem isBlank_empty : isBlank "" = true := rfl

@[simp] theorem isBlank_append (a b : String) : isBlank (a ++ b) = (isBlank a && isBlank b) := by
  simp [isBlank, String.toList_append, List.all_append]

end DocPages.Text
