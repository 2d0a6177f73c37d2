import Mathlib.Data.List.Forall2
import SelfBuild.Proofs.Lint.Numbering
import SelfBuild.Proofs.Lint.Recasing

/-!
# Layout

The batch grammar reads a line without the blanks at its ends and does not tell ASCII capitals from small
letters, and it passes over blank lines and remarks.  So its findings stay the same when lines are indented,
when they end with a carriage return as well, and when letters change their case; and a blank line or a remark
that is put in only moves the numbers of the lines behind it.
-/

namespace SelfBuild

namespace Lint

variable {s line other : List Char} {ls xs ys : List (List Char)}

/-! ## Blanks and letters -/

/-- Lines that differ in the blanks at their ends and in the case of ASCII letters at most. -/
def Restyled (line other : List Char) : Prop :=
  (Text.trim line).map Char.toLower = (Text.trim other).map Char.toLower

instance (line other : List Char) : Decidable (Restyled line other) :=
  inferInstanceAs (Decidable (_ = _))

theorem ofLine_trim (line : List Char) : Row.ofLine (Text.trim line) = Row.ofLine line := by
  unfold Row.ofLine
  rw [Text.trim_trim]

theorem Restyled.lowered_eq (h : Restyled line other) :
    (Row.ofLine line).lowered = (Row.ofLine other).lowered := by
  rw [← ofLine_trim, ← ofLine_trim other, ← ofLine_map_toLower, ← ofLine_map_toLower, h]

theorem loweredAll_numbered (start : Nat) (h : List.Forall₂ Restyled xs ys) :
    Row.loweredAll (numbered start xs) = Row.loweredAll (numbered start ys) := by
  induction h generalizing start with
  | nil => rfl
  | @cons x y xs ys hline _ ih =>
      simp only [numbered_cons, Row.loweredAll, List.map_cons, hline.lowered_eq]
      exact congrArg (((Row.ofLine y).lowered, start) :: ·) (ih (start + 1))

theorem batch_eq_of_restyled {s t : List Char} (h : List.Forall₂ Restyled (innerLines s) (innerLines t)) :
    batch t = batch s := by
  rw [batch_eq_scriptFindings, batch_eq_scriptFindings, ← scriptFindings_lowered,
    ← scriptFindings_lowered (rows s), rows_eq_numbered, rows_eq_numbered, loweredAll_numbered 2 h]

/-! ## Line ends -/

/-- A text with a carriage return in front of each line feed. -/
def returned (s : List Char) : List Char :=
  s.flatMap fun c => if c = '\n' then ['\r', '\n'] else [c]

theorem returned_of_not_mem (h : '\n' ∉ s) : returned s = s := by
  induction s with
  | nil => rfl
  | cons c s ih =>
      rw [List.mem_cons, not_or] at h
      rw [returned, List.flatMap_cons, if_neg (Ne.symm h.1)]
      exact congrArg (c :: ·) (ih h.2)

theorem returned_unlines (h : ∀ line ∈ ls, '\n' ∉ line) :
    returned (Text.unlines ls) = Text.unlines (ls.map (· ++ ['\r'])) := by
  induction ls with
  | nil => rfl
  | cons line ls ih =>
      have hline := returned_of_not_mem (h line List.mem_cons_self)
      have hrest := ih fun other hother => h other (List.mem_cons_of_mem _ hother)
      rw [returned] at hline hrest ⊢
      simp [hline, hrest]

theorem innerLines_returned (s : List Char) :
    innerLines (returned s) = (innerLines s).map (· ++ ['\r']) := by
  obtain ⟨ls, last, rfl, hls, hlast⟩ := Text.exists_eq_unlines_append s
  have hreturned : returned (Text.unlines ls ++ last) =
      Text.unlines (ls.map (· ++ ['\r'])) ++ last := by
    rw [← returned_unlines hls, returned, List.flatMap_append]
    exact congrArg _ (returned_of_not_mem hlast)
  have hmapped : ∀ line ∈ ls.map (· ++ ['\r']), '\n' ∉ line := by
    simpa using hls
  rw [hreturned, innerLines, innerLines, Text.lines_unlines_append hls, Text.lines_unlines_append hmapped]
  by_cases hnil : last = []
  · subst hnil
    have hlines : Text.lines [] = [] := rfl
    rw [hlines, List.append_nil, List.append_nil, ← List.map_tail, ← List.map_dropLast]
  · have hlines : Text.lines last = [last] := by
      rw [Text.lines, Text.pieces_of_not_mem hlast]
      simp [hnil]
    rw [hlines]
    cases ls with
    | nil => rfl
    | cons line ls => simp

/-! ## Lines put in -/

/-- A line that the batch grammar passes over. -/
inductive Idle : List Char → Prop
  | blank {line : List Char} (h : Text.allBlank line = true) : Idle line
  | colons (rest : List Char) : Idle ("::".toList ++ rest)
  | remark {rest : List Char} (h : Text.allBlank rest = false) : Idle ("rem ".toList ++ rest)

theorem ofLine_eq_nothing (h : isRemark (Text.trim line) = true) : Row.ofLine line = .nothing := by
  unfold Row.ofLine
  simp [h]

theorem Idle.ofLine_eq (h : Idle line) : Row.ofLine line = .nothing := by
  cases h with
  | blank h =>
      unfold Row.ofLine
      simp [Text.trim_eq_nil_iff.2 h]
  | colons rest =>
      have htrim := Text.trim_append_cons (b := ':') (c := ':') (by decide) (by decide) [] rest
      refine ofLine_eq_nothing ?_
      rw [show "::".toList ++ rest = [':'] ++ ':' :: rest from rfl, htrim]
      rfl
  | @remark rest h =>
      obtain ⟨c, kept, hkept⟩ : ∃ c kept, Text.trimRight rest = c :: kept := by
        refine List.exists_cons_of_ne_nil fun hnil => ?_
        rw [Text.trimRight_eq_nil_iff, h] at hnil
        cases hnil
      have htrim := Text.trim_append_cons (b := 'r') (c := 'm') (by decide) (by decide) ['e'] (' ' :: rest)
      refine ofLine_eq_nothing ?_
      rw [show "rem ".toList ++ rest = ['r', 'e'] ++ 'm' :: ' ' :: rest from rfl, htrim, Text.trimRight, hkept]
      rfl

theorem restyled_returned (s : List Char) :
    List.Forall₂ Restyled (innerLines s) (innerLines (returned s)) := by
  rw [innerLines_returned, List.forall₂_map_right_iff]
  refine List.forall₂_same.2 fun line _ => ?_
  have htrim : Text.trim ([] ++ line ++ ['\r']) = Text.trim line :=
    Text.trim_blank_append_blank (by decide) (by decide) line
  rw [List.nil_append] at htrim
  rw [Restyled, htrim]

theorem batch_insert_idle {rest : List Char} (hls : ls ≠ []) (hfeed : ∀ line ∈ ls, '\n' ∉ line)
    (hrest : rest ≠ []) (hline : '\n' ∉ line) (hidle : Idle line) :
    batch (Text.unlines ls ++ (line ++ '\n' :: rest)) =
      (batch (Text.unlines ls ++ rest)).map (Finding.renumbered (raised (ls.length + 1))) := by
  obtain ⟨before, hrows, hinserted⟩ := rows_insert hls hfeed hrest hline
  rw [batch_eq_scriptFindings, batch_eq_scriptFindings, hrows, hinserted, hidle.ofLine_eq,
    scriptFindings_insert_nothing, ← scriptFindings_renumber, renumber_append]

/-- Texts have the same findings if their inner lines differ in the blanks at their ends and in the case of
ASCII letters at most, and so has a text with other line ends.  A blank line or a remark that is put in between
two lines of a text raises the numbers behind it by one and changes nothing else. -/
theorem batch_indifferent_to_layout :
    (∀ s t, List.Forall₂ Restyled (innerLines s) (innerLines t) → batch t = batch s) ∧
      (∀ s, batch (returned s) = batch s) ∧
      ∀ ls rest line, ls ≠ [] → (∀ line ∈ ls, '\n' ∉ line) → rest ≠ [] → '\n' ∉ line → Idle line →
        batch (Text.unlines ls ++ (line ++ '\n' :: rest)) =
          (batch (Text.unlines ls ++ rest)).map (Finding.renumbered (raised (ls.length + 1))) :=
  ⟨fun _ _ => batch_eq_of_restyled, fun s => batch_eq_of_restyled (restyled_returned s),
    fun _ _ _ => batch_insert_idle⟩

theorem batch_indifferent_to_layout_of_jump :
    let s := "/*\n  Echo (hi\nGOTO :Nowhere\n*/\n".toList
    let t := "/*\necho (HI \r\n\tgoto :noWHERE\n*/".toList
    let ls := ["/*".toList, "  Echo (hi".toList]
    let rest := "GOTO :Nowhere\n*/\n".toList
    let line := "rem goto".toList
    (List.Forall₂ Restyled (innerLines s) (innerLines t) ∧ batch t = batch s) ∧
      (ls ≠ [] ∧ (∀ line ∈ ls, '\n' ∉ line) ∧ rest ≠ [] ∧ '\n' ∉ line ∧ Idle line) ∧
      Text.unlines ls ++ rest = s ∧ batch s = [⟨.unknownLabel "nowhere", some 3⟩, ⟨.runsOn, some 3⟩] ∧
      batch (Text.unlines ls ++ (line ++ '\n' :: rest)) =
        [⟨.unknownLabel "nowhere", some 4⟩, ⟨.runsOn, some 4⟩] := by
  intro s t ls rest line
  obtain ⟨hrestyled, -, hinsert⟩ := batch_indifferent_to_layout
  have hs : innerLines s = ["  Echo (hi".toList, "GOTO :Nowhere".toList] := by decide +kernel
  have ht : innerLines t = ["echo (HI \r".toList, "\tgoto :noWHERE".toList] := by decide +kernel
  have hstyle : List.Forall₂ Restyled (innerLines s) (innerLines t) := by
    rw [hs, ht]
    refine .cons ?_ (.cons ?_ .nil) <;> decide +kernel
  have hls : ls ≠ [] := List.cons_ne_nil _ _
  have hfeed : ∀ line ∈ ls, '\n' ∉ line := by decide +kernel
  have hidle : Idle line := @Idle.remark "goto".toList (by decide)
  have hjoined : Text.unlines ls ++ rest = s := by decide +kernel
  have hbatch : batch s = [⟨.unknownLabel "nowhere", some 3⟩, ⟨.runsOn, some 3⟩] := by decide +kernel
  have hmoved := hinsert ls rest line hls hfeed (by decide) (by decide) hidle
  rw [hjoined, hbatch] at hmoved
  exact ⟨⟨hstyle, hrestyled s t hstyle⟩, ⟨hls, hfeed, by decide, by decide, hidle⟩, hjoined, hbatch, hmoved⟩

end Lint

end SelfBuild
