import DocPages.DocTag.Content
import Mathlib.Data.List.Basic
import Mathlib.Logic.Relation

namespace DocPages

open Relation

namespace DocTag

mutual

/-- The tags that are left of a tag when all custom markup in it is replaced by what it holds. -/
def expand : DocTag → List DocTag
  | text s => [text s]
  | lineBreak => [lineBreak]
  | element (.custom _) children => expandAll children
  | element markup children => [element markup (expandAll children)]

def expandAll : List DocTag → List DocTag
  | [] => []
  | tag :: rest => tag.expand ++ expandAll rest

end

/-- One custom tag at any depth among some tags is replaced by its children. -/
inductive Splices : List DocTag → List DocTag → Prop
  | here (front : List DocTag) (name : String) (children back : List DocTag) :
      Splices (front ++ element (.custom name) children :: back) (front ++ (children ++ back))
  | inside (front : List DocTag) (markup : Markup) {before after : List DocTag}
      (back : List DocTag) :
      Splices before after →
        Splices (front ++ element markup before :: back) (front ++ element markup after :: back)

/-- Neither a tag nor any tag in it is custom markup. -/
inductive CustomFree : DocTag → Prop
  | text (s : String) : CustomFree (text s)
  | lineBreak : CustomFree lineBreak
  | element {markup : Markup} {children : List DocTag} :
      (∀ name, markup ≠ .custom name) → (∀ tag ∈ children, CustomFree tag) →
        CustomFree (element markup children)

theorem expandAll_eq_flatMap (tags : List DocTag) : expandAll tags = tags.flatMap expand := by
  induction tags with
  | nil => rfl
  | cons tag rest ih => rw [expandAll, ih, List.flatMap_cons]

theorem plainTextAll_eq_join (tags : List DocTag) :
    plainTextAll tags = String.join (tags.map plainText) := by
  induction tags with
  | nil => rfl
  | cons tag rest ih => rw [plainTextAll, ih, List.map_cons, String.join_cons]

namespace Splices

variable {tags others : List DocTag}

theorem append_left (front : List DocTag) (h : Splices tags others) :
    Splices (front ++ tags) (front ++ others) := by
  cases h with
  | here inner name children back =>
      rw [← List.append_assoc, ← List.append_assoc]
      exact .here (front ++ inner) name children back
  | inside inner markup back h =>
      rw [← List.append_assoc, ← List.append_assoc]
      exact .inside (front ++ inner) markup back h

theorem append_right (h : Splices tags others) (back : List DocTag) :
    Splices (tags ++ back) (others ++ back) := by
  cases h with
  | here front name children inner =>
      rw [List.append_assoc, List.append_assoc, List.append_assoc, List.cons_append]
      exact .here front name children (inner ++ back)
  | inside front markup inner h =>
      rw [List.append_assoc, List.append_assoc, List.cons_append, List.cons_append]
      exact .inside front markup (inner ++ back) h

theorem plainTextAll_eq (h : Splices tags others) : plainTextAll tags = plainTextAll others := by
  induction h with
  | here front name children back =>
      simp only [plainTextAll_append, plainTextAll, plainText]
  | inside front markup back _ ih =>
      simp only [plainTextAll_append, plainTextAll, plainText, ih]

theorem expandAll_eq (h : Splices tags others) : expandAll tags = expandAll others := by
  induction h with
  | here front name children back =>
      simp only [expandAll_eq_flatMap, List.flatMap_append, List.flatMap_cons, expand]
  | @inside front markup before after back _ ih =>
      have hmarkup : (element markup before).expand = (element markup after).expand := by
        cases markup <;> simp only [expand, ih]
      simp only [expandAll_eq_flatMap, List.flatMap_append, List.flatMap_cons, hmarkup]

end Splices

theorem eq_of_eqvGen_splices {γ : Type} {f : List DocTag → γ}
    (hf : ∀ tags others, Splices tags others → f tags = f others) {tags others : List DocTag}
    (h : EqvGen Splices tags others) : f tags = f others :=
  congrArg (Quot.lift f hf) (Quot.eqvGen_sound h)

theorem reflTransGen_splices_expand (tag : DocTag) : ReflTransGen Splices [tag] tag.expand := by
  induction tag using DocTag.induction with
  | text s => exact .refl
  | lineBreak => exact .refl
  | element markup children ih =>
      have hchildren : ReflTransGen Splices children (expandAll children) := by
        induction children with
        | nil => exact .refl
        | cons tag rest ihrest =>
            rw [List.forall_mem_cons] at ih
            have hfirst := ih.1.lift (· ++ rest) fun _ _ h => h.append_right rest
            have hrest := (ihrest ih.2).lift (tag.expand ++ ·) fun _ _ h => h.append_left tag.expand
            exact hfirst.trans hrest
      have hinside : ReflTransGen Splices [element markup children]
          [element markup (expandAll children)] :=
        hchildren.lift (fun tags => [element markup tags]) fun _ _ h => .inside [] markup [] h
      cases markup with
      | custom name =>
          have hlast := Splices.here [] name (expandAll children) []
          rw [List.append_nil] at hlast
          exact hinside.tail hlast
      | _ => exact hinside

theorem customFree_of_mem_expand (tag : DocTag) : ∀ inner ∈ tag.expand, inner.CustomFree := by
  induction tag using DocTag.induction with
  | text s => exact List.forall_mem_singleton.mpr (.text s)
  | lineBreak => exact List.forall_mem_singleton.mpr .lineBreak
  | element markup children ih =>
      have hall : ∀ inner ∈ expandAll children, inner.CustomFree := by
        rw [expandAll_eq_flatMap]
        exact List.forall_mem_flatMap.mpr ih
      cases markup with
      | custom name => exact hall
      | _ => exact List.forall_mem_singleton.mpr (.element nofun hall)

theorem CustomFree.expand_eq {tag : DocTag} (h : tag.CustomFree) : tag.expand = [tag] := by
  induction h with
  | text s => rfl
  | lineBreak => rfl
  | @element markup children hmarkup _ ih =>
      have hchildren : expandAll children = children := by
        rw [expandAll_eq_flatMap, List.flatMap_congr ih, List.flatMap_singleton']
      cases markup with
      | custom name => exact absurd rfl (hmarkup name)
      | _ => exact congrArg (fun tags => [DocTag.element _ tags]) hchildren

/-- The expansion of a tag is what any steps that leave no custom markup come to. -/
theorem eq_expand_iff {tag : DocTag} {tags : List DocTag} :
    ReflTransGen Splices [tag] tags ∧ (∀ inner ∈ tags, inner.CustomFree) ↔ tags = tag.expand := by
  constructor
  · rintro ⟨hsteps, hfree⟩
    have hsame : EqvGen Splices [tag] tags := EqvGen.reflTransGen_le_eqvGen _ _ _ hsteps
    have hexpand : expandAll [tag] = expandAll tags :=
      eq_of_eqvGen_splices (fun _ _ h => h.expandAll_eq) hsame
    rw [expandAll_eq_flatMap, expandAll_eq_flatMap, List.flatMap_singleton,
      List.flatMap_congr fun inner hinner => (hfree inner hinner).expand_eq,
      List.flatMap_singleton'] at hexpand
    exact hexpand.symm
  · rintro rfl
    exact ⟨reflTransGen_splices_expand tag, customFree_of_mem_expand tag⟩

variable [PropertyFamily]

/-- A step changes no content: custom markup hands the styles around it on to its children. -/
theorem Splices.contentAllIn_eq {tags others : List DocTag} (h : Splices tags others)
    (attrs : StyleSet → Attrs) (styles : StyleSet) :
    contentAllIn attrs styles tags = contentAllIn attrs styles others := by
  induction h generalizing styles with
  | here front name children back =>
      have hcustom : (element (.custom name) children).contentIn attrs styles =
          contentAllIn attrs styles children := rfl
      simp only [contentAllIn_eq_flatMap, List.flatMap_append, List.flatMap_cons] at hcustom ⊢
      rw [hcustom]
  | inside front markup back _ ih =>
      simp only [contentAllIn_eq_flatMap attrs styles, List.flatMap_append, List.flatMap_cons,
        contentIn, ih]

theorem CustomFree.exists_contentIn_eq {tag : DocTag} (h : tag.CustomFree)
    (attrs : StyleSet → Attrs) (styles : StyleSet) :
    ∃ node, tag.contentIn attrs styles = [node] := by
  cases h with
  | text s => exact ⟨_, rfl⟩
  | lineBreak => exact ⟨_, rfl⟩
  | @element markup children hmarkup _ =>
      cases markup with
      | custom name => exact absurd rfl (hmarkup name)
      | _ => exact ⟨_, rfl⟩

/-- The expansion of a comment is all that is left once every custom tag in it, at any depth, is
replaced by its children. It has the content and the plain text of the comment, with one node for
each of its tags. So neither changes as custom markup is put in, taken out or given another name. -/
theorem toContent_expand (tag : DocTag) :
    (∀ tags, ReflTransGen Splices [tag] tags ∧ (∀ inner ∈ tags, inner.CustomFree) ↔
      tags = tag.expand) ∧
    (∀ identity platforms, tag.toContent identity platforms =
      tag.expand.flatMap fun inner => inner.toContent identity platforms) ∧
    (∀ inner ∈ tag.expand, ∀ identity platforms, ∃ node,
      inner.toContent identity platforms = [node]) ∧
    tag.plainText = String.join (tag.expand.map plainText) ∧
    ∀ other, EqvGen Splices [tag] [other] →
      (∀ identity platforms,
        other.toContent identity platforms = tag.toContent identity platforms) ∧
      other.plainText = tag.plainText := by
  have hcontent (identity : Identity) (platforms : PlatformSet) {tags : List DocTag}
      (h : EqvGen Splices [tag] tags) :
      tag.toContent identity platforms =
        tags.flatMap fun inner => inner.toContent identity platforms := by
    have hall := eq_of_eqvGen_splices
      (fun _ _ h => h.contentAllIn_eq (commentAttrs identity platforms) ∅) h
    rwa [contentAllIn_eq_flatMap, contentAllIn_eq_flatMap, List.flatMap_singleton] at hall
  have htext {tags : List DocTag} (h : EqvGen Splices [tag] tags) :
      tag.plainText = String.join (tags.map plainText) := by
    have hall := eq_of_eqvGen_splices (fun _ _ h => h.plainTextAll_eq) h
    rwa [plainTextAll, plainTextAll, String.append_empty, plainTextAll_eq_join] at hall
  have hexpand : EqvGen Splices [tag] tag.expand :=
    EqvGen.reflTransGen_le_eqvGen _ _ _ (reflTransGen_splices_expand tag)
  refine ⟨fun _ => eq_expand_iff, ?_, ?_, htext hexpand, ?_⟩
  · intro identity platforms
    exact hcontent identity platforms hexpand
  · intro inner hinner identity platforms
    exact (customFree_of_mem_expand tag inner hinner).exists_contentIn_eq _ ∅
  · intro other hother
    refine ⟨?_, ?_⟩
    · intro identity platforms
      rw [hcontent identity platforms hother, List.flatMap_singleton]
    · rw [htext hother, List.map_singleton, String.join_cons, String.join_nil, String.append_empty]

end DocTag

end DocPages
