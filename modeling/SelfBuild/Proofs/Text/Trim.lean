import Mathlib.Data.List.DropRight
import SelfBuild.Text.Blank

/-!
# Trimming

A trimmed text is what is left between two runs of blanks, so blanks at the ends never change it.
-/

namespace SelfBuild

namespace Text

variable {s t before after : List Char}

theorem trimRight_concat (s : List Char) (c : Char) :
    trimRight (s ++ [c]) = if isBlank c then trimRight s else s ++ [c] := by
  induction s with
  | nil => simp [trimRight]
  | cons d s ih =>
      rw [List.cons_append, trimRight, ih]
      by_cases hc : isBlank c = true
      · simp only [hc, if_true, trimRight]
      · simp [hc]

theorem trimRight_eq_rdropWhile (s : List Char) : trimRight s = s.rdropWhile isBlank := by
  induction s using List.reverseRecOn with
  | nil => rfl
  | append_singleton s c ih => rw [trimRight_concat, List.rdropWhile_concat, ih]

theorem trimRight_append_blank (h : ∀ c ∈ after, isBlank c = true) (s : List Char) :
    trimRight (s ++ after) = trimRight s := by
  induction after using List.reverseRecOn with
  | nil => simp
  | append_singleton after c ih =>
      have hc : isBlank c = true := h c (by simp)
      have hrest := ih fun d hd => h d (by simp [hd])
      rw [← List.append_assoc, trimRight_concat, if_pos hc, hrest]

theorem trimLeft_blank_append (h : ∀ c ∈ before, isBlank c = true) (s : List Char) :
    trimLeft (before ++ s) = trimLeft s :=
  List.dropWhile_append_of_pos h

theorem trimLeft_append (h : allBlank s = false) (t : List Char) : trimLeft (s ++ t) = trimLeft s ++ t := by
  have hne : (s.dropWhile isBlank).isEmpty = false := by
    rw [List.isEmpty_eq_false_iff, ne_eq, List.dropWhile_eq_nil_iff]
    exact fun hall => Bool.eq_false_iff.1 h (List.all_eq_true.2 hall)
  simp [trimLeft, List.dropWhile_append, hne]

/-- Blanks at the ends of a text are of no account. -/
theorem trim_blank_append_blank (hb : ∀ c ∈ before, isBlank c = true)
    (ha : ∀ c ∈ after, isBlank c = true) (s : List Char) :
    trim (before ++ s ++ after) = trim s := by
  unfold trim
  rw [List.append_assoc, trimLeft_blank_append hb]
  cases hs : allBlank s with
  | true =>
      have hblank := List.all_eq_true.1 hs
      have hall : trimLeft (s ++ after) = [] := by
        rw [trimLeft_blank_append hblank]
        exact List.dropWhile_eq_nil_iff.2 ha
      have hleft : trimLeft s = [] := List.dropWhile_eq_nil_iff.2 hblank
      rw [hall, hleft]
  | false => rw [trimLeft_append hs, trimRight_append_blank ha]

/-- Trimming takes off blanks and nothing else. -/
theorem exists_blank_append_trim (s : List Char) :
    ∃ before after, (∀ c ∈ before, isBlank c = true) ∧ (∀ c ∈ after, isBlank c = true) ∧
      s = before ++ trim s ++ after := by
  refine ⟨s.takeWhile isBlank, (trimLeft s).rtakeWhile isBlank, ?_, ?_, ?_⟩
  · exact fun c hc => List.mem_takeWhile_imp hc
  · exact fun c hc => List.mem_rtakeWhile_imp hc
  · have hright := List.rdropWhile_append_rtakeWhile (p := isBlank) (l := trimLeft s)
    have hleft := List.takeWhile_append_dropWhile (p := isBlank) (l := s)
    rw [trim, trimRight_eq_rdropWhile, List.append_assoc, hright]
    exact hleft.symm

theorem trim_trim (s : List Char) : trim (trim s) = trim s := by
  obtain ⟨before, after, hb, ha, hs⟩ := exists_blank_append_trim s
  conv_rhs => rw [hs, trim_blank_append_blank hb ha]

theorem trim_infix (s : List Char) : trim s <:+: s := by
  obtain ⟨before, after, -, -, hs⟩ := exists_blank_append_trim s
  exact ⟨before, after, hs.symm⟩

theorem trimRight_append_cons {c : Char} (hc : isBlank c = false) (xs ys : List Char) :
    trimRight (xs ++ c :: ys) = xs ++ c :: trimRight ys := by
  induction xs with
  | nil =>
      rw [List.nil_append, List.nil_append, trimRight, hc]
      cases trimRight ys <;> rfl
  | cons x xs ih =>
      rw [List.cons_append, trimRight, ih]
      cases xs <;> rfl

theorem trim_append_cons {b c : Char} (hb : isBlank b = false) (hc : isBlank c = false)
    (xs ys : List Char) :
    trim (b :: xs ++ c :: ys) = b :: xs ++ c :: trimRight ys := by
  have hleft : trimLeft (b :: xs ++ c :: ys) = b :: xs ++ c :: ys := by
    simp [trimLeft, hb]
  rw [trim, hleft, trimRight_append_cons hc]

theorem trim_eq_self {c d : Char} (hhead : s.head? = some c) (hc : isBlank c = false)
    (hlast : s.getLast? = some d) (hd : isBlank d = false) : trim s = s := by
  have hleft : trimLeft s = s := by
    obtain ⟨rest, rfl⟩ := List.head?_eq_some_iff.1 hhead
    simp [trimLeft, hc]
  obtain ⟨front, rfl⟩ := List.getLast?_eq_some_iff.1 hlast
  rw [trim, hleft, trimRight_concat, hd]
  rfl

/-- What a text is trimmed to, for a text `t` that has no blanks at its ends. -/
theorem trim_eq_iff (ht : trim t = t) :
    trim s = t ↔ ∃ before after, (∀ c ∈ before, isBlank c = true) ∧
      (∀ c ∈ after, isBlank c = true) ∧ s = before ++ t ++ after := by
  constructor
  · rintro rfl
    exact exists_blank_append_trim s
  · rintro ⟨before, after, hb, ha, rfl⟩
    rw [trim_blank_append_blank hb ha, ht]

theorem allBlank_trim (s : List Char) : allBlank (trim s) = allBlank s := by
  obtain ⟨before, after, hb, ha, hs⟩ := exists_blank_append_trim s
  have hbefore : before.all isBlank = true := List.all_eq_true.2 hb
  have hafter : after.all isBlank = true := List.all_eq_true.2 ha
  have happend : allBlank (before ++ trim s ++ after) = allBlank (trim s) := by
    simp [allBlank, List.all_append, hbefore, hafter]
  rw [← hs] at happend
  exact happend.symm

theorem trim_eq_nil_iff : trim s = [] ↔ allBlank s = true := by
  constructor
  · intro h
    rw [← allBlank_trim, h]
    rfl
  · intro h
    exact (trim_eq_iff rfl).2 ⟨s, [], List.all_eq_true.1 h, nofun, by simp⟩

/-- What is kept of a text is kept in front of another text as well. -/
theorem exists_trimRight_append (s t : List Char) : ∃ more, trimRight (s ++ t) = trimRight s ++ more := by
  induction s with
  | nil => exact ⟨trimRight t, rfl⟩
  | cons c s ih =>
      obtain ⟨more, hmore⟩ := ih
      rw [List.cons_append, trimRight, hmore, trimRight]
      cases trimRight s with
      | nil =>
          by_cases hc : isBlank c = true
          · exact ⟨_, by simp only [hc, if_true]; exact (List.nil_append _).symm⟩
          · cases more with
            | nil => exact ⟨[], by simp [hc]⟩
            | cons d more => exact ⟨d :: more, by simp [hc]⟩
      | cons d kept => exact ⟨more, rfl⟩

theorem exists_trim_append (h : allBlank s = false) (t : List Char) :
    ∃ more, trim (s ++ t) = trim s ++ more := by
  rw [trim, trimLeft_append h, trim]
  exact exists_trimRight_append _ _

end Text

end SelfBuild
