import Mathlib.Data.List.Basic
import SelfBuild.Proofs.Text.Occurrence
import SelfBuild.Proofs.Text.Trim
import SelfBuild.Text.Case
import SelfBuild.Text.CharClass

/-!
# The case of ASCII letters

A text may be compared with its copy in small ASCII letters: the class of every character is the same there,
and so is the lower-case form of the whole text, the rule for a final sigma included.
-/

namespace SelfBuild

namespace Text

variable {c d : Char}

def asciiCapitals : List Char := "ABCDEFGHIJKLMNOPQRSTUVWXYZ".toList

/-- Only the ASCII capitals have a small form of their own. -/
theorem toLower_eq_self_or_mem (c : Char) : c.toLower = c ∨ c ∈ asciiCapitals := by
  by_cases h : c.val ≥ 'A'.val ∧ c.val ≤ 'Z'.val
  · right
    have hlow : 65 ≤ c.toNat := h.1
    have hhigh : c.toNat ≤ 90 := h.2
    have hall : ∀ n < 26, Char.ofNat (65 + n) ∈ asciiCapitals := by decide
    have hc := hall (c.toNat - 65) (by omega)
    rwa [show 65 + (c.toNat - 65) = c.toNat by omega, Char.ofNat_toNat] at hc
  · exact .inl (dif_neg h)

/-- What capitals share with their small forms is shared by all characters. -/
theorem apply_toLower {α : Type} {f : Char → α} (h : ∀ c ∈ asciiCapitals, f c.toLower = f c)
    (c : Char) : f c.toLower = f c := by
  rcases toLower_eq_self_or_mem c with hc | hc
  · rw [hc]
  · exact h c hc

theorem isBlank_toLower (c : Char) : isBlank c.toLower = isBlank c :=
  apply_toLower (by decide) c

theorem isWord_toLower (c : Char) : isWord c.toLower = isWord c :=
  apply_toLower (by decide) c

theorem isCased_toLower (c : Char) : isCased c.toLower = isCased c :=
  apply_toLower (by decide) c

theorem isIgnored_toLower (c : Char) : isIgnored c.toLower = isIgnored c :=
  apply_toLower (by decide +kernel) c

theorem lowerChar_toLower (c : Char) : lowerChar c.toLower = lowerChar c :=
  apply_toLower (by decide) c

theorem toLower_toLower (c : Char) : c.toLower.toLower = c.toLower :=
  apply_toLower (f := Char.toLower) (by decide) c

/-- A character that is no letter is found in the same places. -/
theorem toLower_eq_iff (h : ∀ c ∈ asciiCapitals, decide (c.toLower = d) = decide (c = d)) :
    c.toLower = d ↔ c = d := by
  simpa using apply_toLower (f := fun c => decide (c = d)) h c

/-! ## Whole texts -/

theorem meetsCased_map_toLower (s : List Char) : meetsCased (s.map Char.toLower) = meetsCased s := by
  have hfun : isIgnored ∘ Char.toLower = isIgnored := funext isIgnored_toLower
  rw [meetsCased, List.dropWhile_map, hfun, meetsCased]
  cases s.dropWhile isIgnored with
  | nil => rfl
  | cons c rest => exact isCased_toLower c

theorem lowerAfter_map_toLower (before s : List Char) :
    lowerAfter (before.map Char.toLower) (s.map Char.toLower) = lowerAfter before s := by
  induction s generalizing before with
  | nil => rfl
  | cons c s ih =>
      have hsigma : c.toLower = 'Σ' ↔ c = 'Σ' := toLower_eq_iff (by decide)
      rw [List.map_cons, lowerAfter, lowerAfter, ← List.map_cons, ih, meetsCased_map_toLower,
        meetsCased_map_toLower, lowerChar_toLower]
      simp only [hsigma]

theorem lower_map_toLower (s : List Char) : lower (s.map Char.toLower) = lower s :=
  lowerAfter_map_toLower [] s

theorem trimLeft_map_toLower (s : List Char) :
    trimLeft (s.map Char.toLower) = (trimLeft s).map Char.toLower := by
  have hfun : isBlank ∘ Char.toLower = isBlank := funext isBlank_toLower
  rw [trimLeft, List.dropWhile_map, hfun, trimLeft]

theorem trimRight_map_toLower (s : List Char) :
    trimRight (s.map Char.toLower) = (trimRight s).map Char.toLower := by
  induction s with
  | nil => rfl
  | cons c s ih =>
      rw [List.map_cons, trimRight, ih, isBlank_toLower, trimRight]
      cases trimRight s with
      | nil => cases isBlank c <;> rfl
      | cons d rest => rfl

theorem trim_map_toLower (s : List Char) :
    trim (s.map Char.toLower) = (trim s).map Char.toLower := by
  rw [trim, trimLeft_map_toLower, trimRight_map_toLower, trim]

theorem firstWord_map_toLower (s : List Char) :
    firstWord (s.map Char.toLower) = (firstWord s).map Char.toLower := by
  have hfun : (fun c => !isBlank c) ∘ Char.toLower = fun c => !isBlank c :=
    funext fun c => congrArg not (isBlank_toLower c)
  rw [firstWord, trimLeft_map_toLower, List.takeWhile_map, hfun, firstWord]

/-! ## Starts of a lower-case form -/

/-- Whether a text in small letters starts with a word does not hang on what stands behind a character that the
word does not have.  The form of a sigma may hang on it, so the word has no sigma. -/
theorem prefix_lowerAfter_append_cons {word : List Char} (hform : lowerChar c = [c]) (hne : c ≠ 'Σ')
    (hc : c ∉ word) (hsigma : 'σ' ∉ word) (hfinal : 'ς' ∉ word) {before xs ys : List Char} (zs : List Char)
    (h : word <+: lowerAfter before (xs ++ c :: ys)) : word <+: lowerAfter before (xs ++ c :: zs) := by
  induction xs generalizing word before with
  | nil =>
      rw [List.nil_append, lowerAfter, if_neg hne, hform] at h
      rw [eq_nil_of_prefix_cons hc h]
      exact List.nil_prefix
  | cons d xs ih =>
      rw [List.cons_append, lowerAfter] at h ⊢
      by_cases hd : d = 'Σ'
      · have hnil : word = [] := by
          rw [if_pos hd] at h
          split at h
          · exact eq_nil_of_prefix_cons hfinal h
          · exact eq_nil_of_prefix_cons hsigma h
        rw [hnil]
        exact List.nil_prefix
      · rw [if_neg hd] at h ⊢
        rcases List.prefix_or_prefix_of_prefix h (List.prefix_append (lowerChar d) _) with hword | ⟨rest, rfl⟩
        · exact hword.trans (List.prefix_append _ _)
        · simp only [List.mem_append, not_or] at hc hsigma hfinal
          rw [List.prefix_append_right_inj] at h ⊢
          exact ih hc.2 hsigma.2 hfinal.2 h

end Text

end SelfBuild
