import SelfBuild.Text.Table.Compatibility

/-!
# Compatibility forms

What is left of a text in ASCII once every character is replaced by its full compatibility
decomposition and all that is not ASCII is dropped: accents go, ligatures and fractions fall apart,
wide and mathematical letters become plain ones.
-/

namespace SelfBuild

namespace Text

/-- The ASCII characters in the decomposition of one character. -/
def asciiForm (c : Char) : List Char :=
  if c.toNat < 0x80 then [c]
  else
    let letterIn (row : Nat × String) : Option Char :=
      if row.1 ≤ c.toNat then
        (row.2.toList[c.toNat - row.1]?).filter (· ≠ '·')
      else none
    let textIn (row : Nat × List String) : Option String :=
      if row.1 ≤ c.toNat then row.2[c.toNat - row.1]? else none
    match compatibleLetters.findSome? letterIn with
    | some letter => [letter]
    | none => ((compatibleTexts.findSome? textIn).getD "").toList

/-- The ASCII characters in the decomposition of a text. -/
def asciiForms (s : List Char) : List Char :=
  s.flatMap asciiForm

theorem asciiForms_of_ascii {s : List Char} (h : ∀ c ∈ s, c.toNat < 0x80) :
    asciiForms s = s := by
  induction s with
  | nil => rfl
  | cons c rest ih =>
      have hc : c.toNat < 0x80 := h c (by simp)
      have hrest := ih fun d hd => h d (by simp [hd])
      simp only [asciiForms, List.flatMap_cons] at hrest ⊢
      simp [asciiForm, hc, hrest]

end Text

end SelfBuild
