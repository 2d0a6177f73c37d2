import SelfBuild.Proofs.Lint.Echo
import SelfBuild.Proofs.Text.Places

/-!
# Spans of quotes

A caret that is read outside quotes takes the meaning of the next character away and is not printed; inside a
span of quotes it is a character like any other.  The escape of a text does not look at its quotes, so what an
echo prints is the text itself with a caret more in front of every character inside a span that has a meaning of
its own.
-/

namespace SelfBuild

namespace Lint

open Preamble Text

/-- Whether what comes next stands inside a span: an odd number of quotes is in front of it. -/
def inSpan (before : List Char) : Bool :=
  before.count '"' % 2 = 1

/-- Whether the next character stands inside a span, if this one does. -/
def crosses (spanned : Bool) (c : Char) : Bool :=
  if c = '"' then !spanned else spanned

/-- Whether a character is a caret that acts as an escape. -/
def Quoting.escapes : Quoting → Char → Bool
  | .outside, c => c = '^'
  | _, _ => false

/-- What an echo prints of a line: all of it but the carets that act as escapes. -/
def printed (line : List Char) : List Char :=
  ((places line).filter fun (before, c) => !(quotingAfter before).escapes c).map Prod.snd

theorem inSpan_concat (before : List Char) (c : Char) :
    inSpan (before ++ [c]) = crosses (inSpan before) c := by
  rw [inSpan, inSpan, crosses, List.count_append, List.count_singleton]
  by_cases hquote : c = '"'
  · rw [if_pos hquote, if_pos (beq_iff_eq.2 hquote), ← decide_not]
    exact decide_eq_decide.2 (by omega)
  · rw [if_neg hquote, if_neg (mt beq_iff_eq.1 hquote), Nat.add_zero]

theorem foldl_crosses (before : List Char) : before.foldl crosses false = inSpan before := by
  induction before using List.reverseRecOn with
  | nil => rfl
  | append_singleton before c ih => rw [List.foldl_concat, ih, inSpan_concat]

/-! ## Readers of a line -/

theorem bareIn_eq_readWith (quoting : Quoting) (s : List Char) :
    bareIn quoting s = readWith Quoting.next (fun quoting c => [c].filter quoting.keeps) quoting s := by
  induction s generalizing quoting with
  | nil => exact bareIn_nil quoting
  | cons c s ih => rw [bareIn_cons, ih, readWith]

/-- The syntax of a line is what a reader keeps who stands where `quotingAfter` says. -/
theorem bare_eq_places (line : List Char) :
    bare line = ((places line).filter fun (before, c) => (quotingAfter before).keeps c).map Prod.snd :=
  (bareIn_eq_readWith .outside line).trans (readWith_eq_filter _ _ _ _)

/-- Where a reader stands in an escaped text between two characters of the text. -/
def Quoting.ofSpan (spanned : Bool) : Quoting :=
  if spanned then .inside else .outside

/-- Read up to a character, an escaped text is printed as the text is, but for carets inside a span. -/
theorem readWith_escapeEcho (spanned : Bool) (text : List Char) :
    readWith Quoting.next (fun quoting c => [c].filter fun c => !quoting.escapes c) (.ofSpan spanned)
        (escapeEcho text) =
      readWith crosses (fun spanned c => if isMeta c && spanned then ['^', c] else [c]) spanned text := by
  induction text generalizing spanned with
  | nil => rfl
  | cons c text ih =>
      rw [escapeEcho_cons, readWith, ← ih]
      by_cases hmeta : isMeta c = true
      · have hquote := ne_quote_of_isMeta hmeta
        cases spanned <;>
          simp [hmeta, hquote, readWith, crosses, Quoting.ofSpan, Quoting.next, Quoting.escapes]
      · have hcaret := ne_caret_of_not_isMeta hmeta
        by_cases hquote : c = '"'
        · subst hquote
          cases spanned <;> rfl
        · cases spanned <;>
            simp [hmeta, hquote, hcaret, readWith, crosses, Quoting.ofSpan, Quoting.next, Quoting.escapes]

/-! ## What is printed -/

theorem printed_escapeEcho (text : List Char) :
    printed (escapeEcho text) =
      (places text).flatMap fun (before, c) => if isMeta c && inSpan before then ['^', c] else [c] := by
  have hread := readWith_escapeEcho false text
  rw [readWith_eq_filter, readWith_eq_flatMap] at hread
  simp only [foldl_crosses] at hread
  exact hread

/-- Every caret in front of a character makes a text longer. -/
theorem flatMap_caret_eq_iff (p : List Char × Char → Bool) (given : List (List Char × Char)) :
    (given.flatMap fun place => if p place then ['^', place.2] else [place.2]) = given.map Prod.snd ↔
      ∀ place ∈ given, p place = false := by
  have hlength : ((given.flatMap fun place => if p place then ['^', place.2] else [place.2]).length =
      given.length + given.countP p) := by
    induction given with
    | nil => rfl
    | cons place given ih =>
        rw [List.flatMap_cons, List.length_append, ih, List.countP_cons, List.length_cons]
        split <;> simp +arith
  constructor
  · intro h
    rw [h, List.length_map, Nat.left_eq_add, List.countP_eq_zero] at hlength
    exact fun place hplace => Bool.eq_false_iff.2 (hlength place hplace)
  · intro h
    rw [List.map_eq_flatMap]
    exact List.flatMap_congr fun place hplace => by rw [h place hplace]; rfl

/-- What is printed of an escaped text, by a reader who stands where the linter stands, is the text with a
caret in front of each character inside a span that has a meaning of its own.  So the text is printed back
exactly when no such character is inside a span. -/
theorem prints_back_iff (text : List Char) :
    (∀ line, bare line =
        ((places line).filter fun (before, c) => (quotingAfter before).keeps c).map Prod.snd) ∧
      printed (escapeEcho text) =
        ((places text).flatMap fun (before, c) => if isMeta c && inSpan before then ['^', c] else [c]) ∧
      (printed (escapeEcho text) = text ↔
        ∀ before c rest, text = before ++ c :: rest → isMeta c = true → inSpan before = false) := by
  refine ⟨bare_eq_places, printed_escapeEcho text, ?_⟩
  have hiff := flatMap_caret_eq_iff (fun (before, c) => isMeta c && inSpan before) (places text)
  rw [map_snd_places, ← printed_escapeEcho] at hiff
  rw [hiff]
  constructor
  · rintro h before c rest rfl hmeta
    simpa [hmeta] using h (before, c) (mem_places.2 ⟨rest, rfl⟩)
  · rintro h ⟨before, c⟩ hplace
    obtain ⟨rest, hrest⟩ := mem_places.1 hplace
    rw [Bool.and_eq_false_imp]
    exact h before c rest hrest

/-- A caret is printed between quotes that the text does not have. -/
theorem caret_printed_in_span :
    let text := "\"&\"".toList
    '\n' ∉ text ∧ escapeEcho text = "\"^&\"".toList ∧ printed (escapeEcho text) = "\"^&\"".toList ∧
      printed (escapeEcho text) ≠ text := by
  decide

end Lint

end SelfBuild
