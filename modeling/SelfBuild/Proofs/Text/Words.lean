import SelfBuild.Text.Blank

/-!
# Words

The words of a text are the pieces between separators that are not empty.  So at a separator a text falls
into two texts, and the words of the whole are the words of the one and then those of the other.
-/

namespace SelfBuild

namespace Text

variable {isSeparator : Char → Bool} {s word : List Char} {c : Char}

theorem wordsBy_eq_filter_splitOnP (isSeparator : Char → Bool) (s : List Char) :
    wordsBy isSeparator s = (s.splitOnP isSeparator).filter (· ≠ []) := by
  induction s with
  | nil => simp [wordsBy]
  | cons c rest ih =>
      rw [List.splitOnP_cons_eq_if_modifyHead, wordsBy.eq_def]
      dsimp only
      by_cases hc : isSeparator c = true
      · simp [hc, ih]
      · simp only [hc, Bool.false_eq_true, if_false]
        cases rest with
        | nil => simp [wordsBy]
        | cons d rest =>
            rw [ih, List.splitOnP_cons_eq_if_modifyHead]
            by_cases hd : isSeparator d = true
            · simp only [hd, if_true, List.modifyHead_cons, List.filter_cons]
              cases (rest.splitOnP isSeparator).filter (· ≠ []) <;> simp_all
            · cases hpieces : rest.splitOnP isSeparator with
              | nil => exact absurd hpieces (List.splitOnP_ne_nil _ _)
              | cons piece more => simp [hd]

/-- A text without separators is one word. -/
theorem wordsBy_eq_singleton (hne : s ≠ []) (h : ∀ c ∈ s, isSeparator c = false) :
    wordsBy isSeparator s = [s] := by
  rw [wordsBy_eq_filter_splitOnP, List.splitOnP_eq_singleton h]
  simp [hne]

theorem wordsBy_append_cons (hc : isSeparator c = true) (s t : List Char) :
    wordsBy isSeparator (s ++ c :: t) = wordsBy isSeparator s ++ wordsBy isSeparator t := by
  simp only [wordsBy_eq_filter_splitOnP, List.splitOnP_append_cons s t hc, List.filter_append]

theorem isSeparator_of_mem_splitOnP :
    ∀ piece ∈ s.splitOnP isSeparator, ∀ c ∈ piece, isSeparator c = false := by
  induction s with
  | nil => simp
  | cons first rest ih =>
      obtain ⟨piece, more, hpieces⟩ := List.exists_cons_of_ne_nil (List.splitOnP_ne_nil isSeparator rest)
      rw [hpieces, List.forall_mem_cons] at ih
      rw [List.splitOnP_cons_eq_if_modifyHead, hpieces]
      split
      · simpa using ih
      · rename_i hfirst
        rw [List.modifyHead_cons, List.forall_mem_cons, List.forall_mem_cons]
        exact ⟨⟨by simpa using hfirst, ih.1⟩, ih.2⟩

/-- Words are not empty, and there are no separators in them. -/
theorem ne_nil_of_mem_wordsBy (h : word ∈ wordsBy isSeparator s) :
    word ≠ [] ∧ ∀ c ∈ word, isSeparator c = false := by
  rw [wordsBy_eq_filter_splitOnP, List.mem_filter] at h
  exact ⟨by simpa using h.2, isSeparator_of_mem_splitOnP word h.1⟩

end Text

end SelfBuild
