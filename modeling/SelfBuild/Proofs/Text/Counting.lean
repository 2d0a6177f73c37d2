import Mathlib.Algebra.GroupWithZero.Nat
import SelfBuild.Proofs.Text.Lines

/-!
# Counting occurrences

A pattern is counted at every place where it starts.  A character that the pattern does not have cuts a text
into two that are counted on their own, so what is counted in lines or in words adds up.
-/

namespace SelfBuild

namespace Text

variable {pattern s xs ys : List Char}

/-- At how many places of a text a pattern starts. -/
def occurrences (pattern : List Char) : List Char → Nat
  | [] => 0
  | c :: s => (if pattern.isPrefixOf (c :: s) then 1 else 0) + occurrences pattern s

theorem occurrences_eq_zero (h : ¬ pattern <:+: s) : occurrences pattern s = 0 := by
  induction s with
  | nil => rfl
  | cons c s ih =>
      rw [List.infix_cons_iff, not_or] at h
      rw [occurrences, if_neg (by rw [List.isPrefixOf_iff_prefix]; exact h.1), ih h.2]

theorem occurrences_cons {c : Char} (hc : c ∉ pattern) (hne : pattern ≠ []) (s : List Char) :
    occurrences pattern (c :: s) = occurrences pattern s := by
  have hstart : ¬ pattern.isPrefixOf (c :: s) = true := by
    rw [List.isPrefixOf_iff_prefix]
    exact fun h => hne (eq_nil_of_prefix_cons hc h)
  rw [occurrences, if_neg hstart, Nat.zero_add]

/-- A pattern without the character in the middle starts on either side of it and ends there. -/
theorem occurrences_append_cons {c : Char} (hc : c ∉ pattern) (hne : pattern ≠ []) (xs ys : List Char) :
    occurrences pattern (xs ++ c :: ys) = occurrences pattern xs + occurrences pattern ys := by
  induction xs with
  | nil => rw [List.nil_append, occurrences_cons hc hne, occurrences.eq_1, Nat.zero_add]
  | cons x xs ih =>
      have hstart : pattern.isPrefixOf (x :: (xs ++ c :: ys)) = pattern.isPrefixOf (x :: xs) := by
        rw [Bool.eq_iff_iff, List.isPrefixOf_iff_prefix, List.isPrefixOf_iff_prefix, ← List.cons_append]
        exact ⟨prefix_of_prefix_append_cons hc, fun h => h.trans (List.prefix_append (x :: xs) (c :: ys))⟩
      rw [List.cons_append, occurrences, hstart, ih, occurrences, Nat.add_assoc]

/-- A pattern without the separator starts in front of all separators or behind one of them. -/
theorem occurrences_append_flatMap_cons {α : Type} {c : Char} (hc : c ∉ pattern) (hne : pattern ≠ [])
    (f : α → List Char) (s : List Char) (words : List α) :
    occurrences pattern (s ++ words.flatMap fun word => c :: f word) =
      occurrences pattern s + (words.map fun word => occurrences pattern (f word)).sum := by
  induction words generalizing s with
  | nil => simp
  | cons word words ih =>
      rw [List.flatMap_cons, List.cons_append, occurrences_append_cons hc hne, ih (f word), List.map_cons,
        List.sum_cons]

theorem occurrences_unlines (hp : '\n' ∉ pattern) (hne : pattern ≠ []) (ls : List (List Char)) :
    occurrences pattern (unlines ls) = (ls.map (occurrences pattern)).sum := by
  induction ls with
  | nil => rfl
  | cons line ls ih => rw [unlines_cons, occurrences_append_cons hp hne, ih, List.map_cons, List.sum_cons]

end Text

end SelfBuild
