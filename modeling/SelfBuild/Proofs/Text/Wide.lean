import SelfBuild.Text.Wide

/-!
# Plain texts

Only a text without halves of surrogate pairs can be encoded.  Putting texts together makes a plain one
exactly of plain ones, so whether an output can be sent is a question about the texts that go into it.
-/

namespace SelfBuild

namespace WideText

variable {a b text : WideText} {s : String}

/-- There are no halves of surrogate pairs in a text. -/
def IsPlain (text : WideText) : Prop :=
  ∃ s, text = plain s

@[simp] theorem isPlain_plain (s : String) : (plain s).IsPlain := ⟨s, rfl⟩

theorem isPlain_iff : text.IsPlain ↔ text.points.any Point.isSurrogate = false := by
  cases text with
  | plain s => exact iff_of_true ⟨s, rfl⟩ (any_points_plain s)
  | loose t =>
      have hloose : t.points.any Point.isSurrogate ≠ false := by
        rw [t.isLoose]
        exact Bool.true_eq_false.mp
      refine iff_of_false ?_ hloose
      rintro ⟨s, h⟩
      cases h

instance (text : WideText) : Decidable text.IsPlain :=
  decidable_of_iff _ isPlain_iff.symm

theorem isPlain_ofPoints_iff {points : List Point} :
    (ofPoints points).IsPlain ↔ points.any Point.isSurrogate = false := by
  rw [isPlain_iff, points_ofPoints]

theorem isPlain_append_iff : (a ++ b).IsPlain ↔ a.IsPlain ∧ b.IsPlain := by
  rw [isPlain_iff, isPlain_iff, isPlain_iff, points_append, List.any_append, Bool.or_eq_false_iff]

theorem isPlain_plain_append_iff (s : String) (text : WideText) :
    (plain s ++ text).IsPlain ↔ text.IsPlain := by
  rw [isPlain_append_iff, and_iff_right (isPlain_plain s)]

theorem toPlain_eq_ok_iff : text.toPlain = .ok s ↔ text = plain s := by
  cases text <;> simp [toPlain]

/-- A text that is not plain has a fault instead of an encoding. -/
theorem exists_toPlain_eq_error_iff : (∃ fault, text.toPlain = .error fault) ↔ ¬ text.IsPlain := by
  cases text with
  | plain s => simp [toPlain, isPlain_plain]
  | loose t =>
      refine iff_of_true ⟨_, rfl⟩ ?_
      rintro ⟨s, h⟩
      cases h

end WideText

end SelfBuild
