import DocPages.Dri

namespace DocPages

/-- What a marked-up part of a comment is. -/
inductive Markup where
  | paragraph
  | bold
  | italic
  | strikethrough
  | codeInline
  | codeBlock (language : String)
  | link (address : String)
  | documentationLink (address : Dri)
  | unorderedList
  | orderedList
  | listItem
  | custom (name : String)
deriving DecidableEq, Inhabited, Repr

inductive DocTag where
  | text (text : String)
  | lineBreak
  | element (markup : Markup) (children : List DocTag)
deriving Inhabited

namespace DocTag

mutual

def decEq : (a b : DocTag) → Decidable (a = b)
  | text s, text t => decidable_of_iff (s = t) (by simp)
  | lineBreak, lineBreak => .isTrue rfl
  | element m as, element n bs =>
      match decEqAll as bs with
      | .isTrue h => decidable_of_iff (m = n) (by simp [h])
      | .isFalse h => .isFalse (by simp [h])
  | text _, lineBreak => .isFalse nofun
  | text _, element _ _ => .isFalse nofun
  | lineBreak, text _ => .isFalse nofun
  | lineBreak, element _ _ => .isFalse nofun
  | element _ _, text _ => .isFalse nofun
  | element _ _, lineBreak => .isFalse nofun

def decEqAll : (as bs : List DocTag) → Decidable (as = bs)
  | [], [] => .isTrue rfl
  | a :: as, b :: bs =>
      match decEq a b, decEqAll as bs with
      | .isTrue h, .isTrue hs => .isTrue (by rw [h, hs])
      | .isFalse h, _ => .isFalse (by simp [h])
      | _, .isFalse hs => .isFalse (by simp [hs])
  | [], _ :: _ => .isFalse nofun
  | _ :: _, [] => .isFalse nofun

end

instance : DecidableEq DocTag := decEq

/-- The tags inside a tag. -/
def children : DocTag → List DocTag
  | element _ children => children
  | _ => []

mutual

/-- The text of all leaves; a line break is a newline. -/
def plainText : DocTag → String
  | text s => s
  | lineBreak => "\n"
  | element _ children => plainTextAll children

def plainTextAll : List DocTag → String
  | [] => ""
  | tag :: rest => tag.plainText ++ plainTextAll rest

end

@[simp] theorem plainTextAll_append (as bs : List DocTag) :
    plainTextAll (as ++ bs) = plainTextAll as ++ plainTextAll bs := by
  induction as with
  | nil => simp [plainTextAll]
  | cons a rest ih => simp [plainTextAll, ih, String.append_assoc]

theorem induction {P : DocTag → Prop} (text : ∀ s, P (text s)) (lineBreak : P lineBreak)
    (element : ∀ markup children, (∀ t ∈ children, P t) → P (element markup children))
    (tag : DocTag) : P tag :=
  @DocTag.rec P (fun tags => ∀ t ∈ tags, P t) text lineBreak element (fun _ h => nomatch h)
    (fun _ _ hhead htail => List.forall_mem_cons.mpr ⟨hhead, htail⟩) tag

end DocTag

end DocPages
