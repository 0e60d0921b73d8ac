import DocPages.Text.CaseData
import DocPages.Text.Ranges

namespace DocPages.Text

def isCased (c : Char) : Bool := inRanges casedRanges c

def isCaseIgnorable (c : Char) : Bool := inRanges caseIgnorableRanges c

/-- The lower-case form that a character has wherever it stands. -/
def lowercaseChar (c : Char) : List Char :=
  if c = 'İ' then ['i', '\u0307']
  else
    match lowercaseRuns.find? fun (first, last, step, _) =>
        first ≤ c.toNat && c.toNat ≤ last && (c.toNat - first) % step == 0 with
    | some (first, _, _, image) => [Char.ofNat (image + (c.toNat - first))]
    | none => [c]

/-- Whether the first character that is not case-ignorable is a cased one. -/
def startsCased (text : List Char) : Bool :=
  match text.dropWhile isCaseIgnorable with
  | [] => false
  | c :: _ => isCased c

/-- Lower-cases the rest of a text; `before` is what precedes it, read backwards. A sigma ends a
word if a cased letter stands before it and none after it. -/
def lowercaseAfter (before : List Char) : List Char → List Char
  | [] => []
  | c :: rest =>
      let form :=
        if c = 'Σ' then
          if startsCased before && !startsCased rest then ['ς'] else ['σ']
        else lowercaseChar c
      form ++ lowercaseAfter (c :: before) rest

def lowercase (text : String) : String := String.ofList (lowercaseAfter [] text.toList)

end DocPages.Text
