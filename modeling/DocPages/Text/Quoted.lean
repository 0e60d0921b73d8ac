import DocPages.Text.EscapeData
import DocPages.Text.Ranges

namespace DocPages.Text

/-- How a character is written between quotes: quotes and backslashes after a backslash, the usual
controls by their letters, and other invisible characters by their number. -/
def quotedChar (c : Char) : String :=
  if c = '"' then "\\\""
  else if c = '\\' then "\\\\"
  else if c = '\n' then "\\n"
  else if c = '\r' then "\\r"
  else if c = '\t' then "\\t"
  else if c.toNat = 0 then "\\0"
  else if inRanges invisibleRanges c then
    "\\u\x7b" ++ String.ofList (Nat.toDigits 16 c.toNat) ++ "\x7d"
  else String.singleton c

def quoted (text : String) : String :=
  "\"" ++ String.join (text.toList.map quotedChar) ++ "\""

end DocPages.Text
