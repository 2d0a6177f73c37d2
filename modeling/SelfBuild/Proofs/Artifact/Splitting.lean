import SelfBuild.Lint.Batch
import SelfBuild.Proofs.Text.Occurrence

/-!
# Splitting

An artifact is split behind its first close line.  A close line starts and ends with a line feed, so two of
them can overlap, and a source can begin in the middle of what looks like one.  But the first one lies wholly
in the preamble, and no earlier one can be completed by what follows.  So the source has no part in where an
artifact is split, nor in what the linter finds.
-/

namespace SelfBuild

namespace Artifact

variable {s preamble source : List Char}

/-- A text that ends with a close line and holds no other one. -/
structure Closed (s : List Char) : Prop where
  ends : closeLine <:+ s
  only : ∀ before after, s = before ++ closeLine ++ after → after = []

/-- Before its last character such a text holds no close line. -/
theorem closed_iff_not_infix_dropLast :
    Closed s ↔ ∃ before, s = before ++ closeLine ∧ ¬ closeLine <:+: before ++ closeLine.dropLast := by
  have hdrop (before : List Char) :
      (before ++ closeLine).dropLast = before ++ closeLine.dropLast :=
    List.dropLast_append_of_ne_nil (by decide)
  constructor
  · rintro ⟨⟨before, rfl⟩, honly⟩
    refine ⟨before, rfl, ?_⟩
    rintro ⟨front, back, hinner⟩
    have hlast : before ++ closeLine = front ++ closeLine ++ (back ++ ['\n']) := by
      rw [← List.append_assoc, hinner, List.append_assoc]
      rfl
    have hnil := honly front (back ++ ['\n']) hlast
    simp at hnil
  · rintro ⟨before, rfl, hnone⟩
    refine ⟨List.suffix_append _ _, fun front back hsplit => ?_⟩
    by_cases hback : back = []
    · exact hback
    · refine absurd ⟨front, back.dropLast, ?_⟩ hnone
      rw [← hdrop, hsplit, List.dropLast_append_of_ne_nil hback]

theorem splitChars?_eq_some_iff :
    splitChars? s = some (preamble, source) ↔ s = preamble ++ source ∧ Closed preamble := by
  have hclose : closeLine ≠ [] := by decide
  rw [splitChars?, Option.map_eq_some_iff, closed_iff_not_infix_dropLast]
  constructor
  · rintro ⟨⟨before, rest⟩, hcut, hparts⟩
    simp only [Prod.mk.injEq] at hparts
    obtain ⟨rfl, rfl⟩ := hparts
    obtain ⟨htext, hnone⟩ := (Text.cut?_eq_some_iff hclose).1 hcut
    exact ⟨htext, before, rfl, hnone⟩
  · rintro ⟨rfl, before, rfl, hnone⟩
    exact ⟨(before, source), Text.cut?_append hclose hnone source, rfl⟩

theorem splitChars?_eq_none_iff : splitChars? s = none ↔ ¬ closeLine <:+: s := by
  rw [splitChars?, Option.map_eq_none_iff, ← Text.occurs_iff_infix, Text.occurs, Bool.not_eq_true,
    Option.isSome_eq_false_iff, Option.isNone_iff_eq_none]

theorem split?_eq_some_iff {text preamble source : String} :
    split? text = some (preamble, source) ↔ text = preamble ++ source ∧ Closed preamble.toList := by
  have htext : text.toList = preamble.toList ++ source.toList ↔ text = preamble ++ source := by
    rw [← String.toList_append, String.toList_inj]
  rw [split?, ← htext, ← splitChars?_eq_some_iff]
  constructor
  · intro h
    obtain ⟨⟨front, back⟩, hchars, hparts⟩ := Option.map_eq_some_iff.1 h
    simp only [Prod.mk.injEq] at hparts
    obtain ⟨rfl, rfl⟩ := hparts
    rwa [String.toList_ofList, String.toList_ofList]
  · intro h
    simp [h]

/-- What the linter says about an artifact is what it says about its preamble. -/
theorem artifact?_of_splitChars? (h : splitChars? s = some (preamble, source)) :
    Lint.artifact? s = some (Lint.preamble preamble) := by
  rw [Lint.artifact?, h]
  rfl

/-- Only a text without a close line cannot be split.  Any other text is split behind the first one, and a
preamble that was split off is split off again, with the same findings, whatever is put in the place of the
source. -/
theorem split_whatever_follows (text : String) :
    (split? text = none ↔ ¬ closeLine <:+: text.toList) ∧
      ∀ preamble source, split? text = some (preamble, source) →
        preamble ++ source = text ∧ Closed preamble.toList ∧
          Lint.artifact? text.toList = some (Lint.preamble preamble.toList) ∧
          ∀ other, split? (preamble ++ other) = some (preamble, other) ∧
            Lint.artifact? (preamble ++ other).toList = some (Lint.preamble preamble.toList) := by
  have hlint {text preamble source : String} (h : split? text = some (preamble, source)) :
      Lint.artifact? text.toList = some (Lint.preamble preamble.toList) := by
    obtain ⟨rfl, hclosed⟩ := split?_eq_some_iff.1 h
    rw [String.toList_append]
    exact artifact?_of_splitChars? (splitChars?_eq_some_iff.2 ⟨rfl, hclosed⟩)
  refine ⟨?_, fun preamble source hsplit => ?_⟩
  · rw [split?, Option.map_eq_none_iff, splitChars?_eq_none_iff]
  · obtain ⟨htext, hclosed⟩ := split?_eq_some_iff.1 hsplit
    refine ⟨htext.symm, hclosed, hlint hsplit, fun other => ?_⟩
    have hother : split? (preamble ++ other) = some (preamble, other) :=
      split?_eq_some_iff.2 ⟨rfl, hclosed⟩
    exact ⟨hother, hlint hother⟩

/-- The preamble ends within two close lines that overlap, and another source goes on with the second one. -/
theorem split_whatever_follows_of_overlap :
    let text := "/*\nexit\n*/\n*/\nx"
    let preamble := "/*\nexit\n*/\n"
    let other := "*/\n\n*/\ny"
    split? text = some (preamble, "*/\nx") ∧ split? (preamble ++ other) = some (preamble, other) ∧
      Lint.artifact? (preamble ++ other).toList = Lint.artifact? text.toList := by
  intro text preamble other
  have hsplit : split? text = some (preamble, "*/\nx") := by decide +kernel
  obtain ⟨-, -, hfindings, hfollows⟩ := (split_whatever_follows text).2 _ _ hsplit
  obtain ⟨hother, hsame⟩ := hfollows other
  exact ⟨hsplit, hother, hsame.trans hfindings.symm⟩

end Artifact

end SelfBuild
