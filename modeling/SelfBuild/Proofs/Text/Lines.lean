import SelfBuild.Proofs.Text.Occurrence
import SelfBuild.Text.Lines

/-!
# Lines and pieces

`pieces` splits a text at its line feeds and `unlines` puts lines together again; between them no
character is lost.  `lines` is `pieces` except that a last line feed opens no line of its own, so a
text and the same text with a last line feed may have the same lines.
-/

namespace SelfBuild

namespace Text

variable {s t line : List Char} {ls : List (List Char)}

theorem pieces_eq_splitOn (s : List Char) : pieces s = s.splitOn '\n' := by
  induction s with
  | nil => simp [pieces]
  | cons c s ih =>
      rw [List.splitOn_cons_eq_if_modifyHead, ← ih, pieces]
      cases hs : pieces s with
      | nil => exact absurd hs (pieces_ne_nil s)
      | cons piece more => simp

theorem pieces_append_newline (s t : List Char) :
    pieces (s ++ '\n' :: t) = pieces s ++ pieces t := by
  simp only [pieces_eq_splitOn, List.splitOn_append_cons_self]

theorem pieces_of_not_mem (h : '\n' ∉ s) : pieces s = [s] := by
  rw [pieces_eq_splitOn, List.splitOn_eq_singleton h]

theorem not_mem_of_mem_pieces (h : line ∈ pieces s) : '\n' ∉ line := by
  induction s generalizing line with
  | nil =>
      simp only [pieces, List.mem_singleton] at h
      simp [h]
  | cons c s ih =>
      simp only [pieces] at h
      split at h
      · rcases List.mem_cons.1 h with rfl | h
        · exact List.not_mem_nil
        · exact ih h
      · rename_i hc
        split at h
        · rename_i hs
          exact absurd hs (pieces_ne_nil s)
        · rename_i piece more hs
          rcases List.mem_cons.1 h with rfl | h
          · rw [List.mem_cons, not_or]
            exact ⟨Ne.symm hc, ih (by simp [hs])⟩
          · exact ih (by simp [hs, h])

theorem pieces_append_of_not_mem {piece : List Char} {more : List (List Char)} (h : '\n' ∉ t)
    (hs : pieces s = piece :: more) : pieces (t ++ s) = (t ++ piece) :: more := by
  induction t with
  | nil => exact hs
  | cons c t ih =>
      rw [List.mem_cons, not_or] at h
      simp [pieces, Ne.symm h.1, ih h.2]

/-- Turning line ends begins where the first carriage return may be. -/
theorem normalizeEnds_append (h : '\r' ∉ s) (t : List Char) :
    normalizeEnds (s ++ t) = s ++ normalizeEnds t := by
  induction s with
  | nil => rfl
  | cons c s ih =>
      rw [List.mem_cons, not_or] at h
      rw [List.cons_append, normalizeEnds.eq_3 c (s ++ t) fun _ hc _ => h.1 hc.symm,
        if_neg (Ne.symm h.1), ih h.2, List.cons_append]

/-! ## Putting lines together -/

@[simp] theorem unlines_nil : unlines [] = [] := rfl

@[simp] theorem unlines_cons (line : List Char) (ls : List (List Char)) :
    unlines (line :: ls) = line ++ '\n' :: unlines ls := by
  simp [unlines]

@[simp] theorem unlines_append (ls ms : List (List Char)) :
    unlines (ls ++ ms) = unlines ls ++ unlines ms := by
  simp [unlines]

theorem unlines_pieces (s : List Char) : unlines (pieces s) = s ++ ['\n'] := by
  induction s with
  | nil => rfl
  | cons c s ih =>
      simp only [pieces]
      split
      · rename_i hc
        simp [ih, hc]
      · split
        · rename_i hs
          exact absurd hs (pieces_ne_nil s)
        · rename_i piece more hs
          rw [hs, unlines_cons] at ih
          simp [ih]

theorem exists_unlines_eq_concat (h : ls ≠ []) : ∃ body, unlines ls = body ++ ['\n'] := by
  obtain ⟨init, last, rfl⟩ := by
    simpa only [List.concat_eq_append] using List.eq_nil_or_concat ls |>.resolve_left h
  exact ⟨unlines init ++ last, by simp⟩

theorem pieces_unlines_append (hls : ∀ line ∈ ls, '\n' ∉ line) (t : List Char) :
    pieces (unlines ls ++ t) = ls ++ pieces t := by
  induction ls with
  | nil => rfl
  | cons line ls ih =>
      have hline : '\n' ∉ line := hls line (by simp)
      have hrest := ih fun l hl => hls l (by simp [hl])
      rw [unlines_cons, List.append_assoc, List.cons_append, pieces_append_newline, hrest,
        pieces_of_not_mem hline]
      rfl

/-- A pattern without line feeds lies on one line. -/
theorem infix_unlines_iff {pattern : List Char} (hp : '\n' ∉ pattern) (hne : pattern ≠ []) :
    pattern <:+: unlines ls ↔ ∃ line ∈ ls, pattern <:+: line := by
  induction ls with
  | nil => simp [hne]
  | cons line ls ih => simp [infix_append_cons_iff hp, ih]

/-! ## Lines -/

theorem lines_append_newline (s : List Char) : lines (s ++ ['\n']) = pieces s := by
  have hpieces : pieces (s ++ ['\n']) = pieces s ++ [[]] := pieces_append_newline s []
  simp [lines, hpieces]

theorem lines_of_getLast? (h : (pieces s).getLast? ≠ some []) : lines s = pieces s := by
  simp [lines, h]

theorem lines_unlines (hls : ∀ line ∈ ls, '\n' ∉ line) :
    lines (unlines ls) = ls := by
  have hpieces := pieces_unlines_append hls []
  rw [List.append_nil] at hpieces
  simp [lines, hpieces, pieces]

theorem lines_unlines_append (h : ∀ line ∈ ls, '\n' ∉ line) (t : List Char) :
    lines (unlines ls ++ t) = ls ++ lines t := by
  have hlast : (ls ++ pieces t).getLast? = (pieces t).getLast? := by
    rw [List.getLast?_append, List.getLast?_eq_some_getLast (pieces_ne_nil t), Option.some_or]
  rw [lines, pieces_unlines_append h, hlast, lines]
  split
  · exact List.dropLast_append_of_ne_nil (pieces_ne_nil t)
  · rfl

theorem lines_ne_nil (h : s ≠ []) : lines s ≠ [] := by
  intro hnil
  have hpieces : pieces s = [[]] := by
    rw [lines] at hnil
    split at hnil
    · rename_i hlast
      obtain ⟨front, hfront⟩ := List.getLast?_eq_some_iff.1 hlast
      rw [hfront, List.dropLast_concat] at hnil
      rw [hfront, hnil, List.nil_append]
    · exact absurd hnil (pieces_ne_nil s)
  have hjoin := unlines_pieces s
  rw [hpieces] at hjoin
  exact h (List.append_cancel_right hjoin.symm)

/-- A text is some lines with their line feeds and what stands behind the last of these. -/
theorem exists_eq_unlines_append (s : List Char) :
    ∃ ls last, s = unlines ls ++ last ∧ (∀ line ∈ ls, '\n' ∉ line) ∧ '\n' ∉ last := by
  obtain ⟨ls, last, hpieces⟩ := (List.eq_nil_or_concat _).resolve_left (pieces_ne_nil s)
  rw [List.concat_eq_append] at hpieces
  have hfeed : ∀ line ∈ ls ++ [last], '\n' ∉ line := fun line hline =>
    not_mem_of_mem_pieces (hpieces ▸ hline)
  have hjoin := unlines_pieces s
  rw [hpieces, unlines_append, unlines_cons, unlines_nil, ← List.append_assoc] at hjoin
  exact ⟨ls, last, (List.append_cancel_right hjoin).symm,
    fun line hline => hfeed line (List.mem_append_left _ hline), hfeed last (by simp)⟩

/-- The lines of a text are the pieces of what stands before a last line feed, if there is one. -/
theorem exists_pieces_eq_lines (h : lines s ≠ []) :
    ∃ body ending, s = body ++ ending ∧ (ending = [] ∨ ending = ['\n']) ∧
      lines s = pieces body := by
  by_cases hlast : (pieces s).getLast? = some []
  · obtain ⟨front, hfront⟩ := List.getLast?_eq_some_iff.1 hlast
    have hlines : lines s = front := by simp [lines, hfront]
    have hfeeds : ∀ line ∈ front, '\n' ∉ line := fun line hline =>
      not_mem_of_mem_pieces (s := s) (by simp [hfront, hline])
    have hs : s = unlines front := by
      have hjoin := unlines_pieces s
      rw [hfront, unlines_append, unlines_cons, unlines_nil, List.nil_append] at hjoin
      exact (List.append_cancel_right hjoin).symm
    rw [hlines] at h ⊢
    obtain ⟨init, last, rfl⟩ := by
      simpa only [List.concat_eq_append] using List.eq_nil_or_concat front |>.resolve_left h
    refine ⟨unlines init ++ last, ['\n'], by simp [hs], .inr rfl, ?_⟩
    rw [pieces_unlines_append fun line hline => hfeeds line (by simp [hline]),
      pieces_of_not_mem (hfeeds last (by simp))]
  · exact ⟨s, [], by simp, .inl rfl, lines_of_getLast? hlast⟩

end Text

end SelfBuild
