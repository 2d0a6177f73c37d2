import SelfBuild.Lint.Comment
import SelfBuild.Proofs.Text.Lines
import SelfBuild.Proofs.Text.Trim

/-!
# The language of the comment grammar

The line rules and the compiler's reading of a comment agree.  The lines of a text have no finding
exactly when the text is one block comment, and its close stands on the last line with nothing but
blanks beside it; what the compiler reads after such a comment is the rest of that line.
-/

namespace SelfBuild

namespace Lint

open Preamble

variable {s body before after ending : List Char}

/-- A text that is one block comment, with what stands in it, the blanks on both sides of its close,
and the line feed that may be there at the end. -/
structure Enclosed (s body before after ending : List Char) : Prop where
  text_eq : s = commentOpen ++ body ++ '\n' :: before ++ commentClose ++ after ++ ending
  not_closed : ¬ commentClose <:+: body
  before_blank : ∀ c ∈ before, Text.isBlank c = true ∧ c ≠ '\n'
  after_blank : ∀ c ∈ after, Text.isBlank c = true ∧ c ≠ '\n'
  ending_eq : ending = [] ∨ ending = ['\n']

theorem newline_not_mem_commentClose : '\n' ∉ commentClose := by decide

theorem commentClose_ne_nil : commentClose ≠ [] := by decide

theorem trim_commentClose : Text.trim commentClose = commentClose := by decide

/-- A line that opens a comment is no close line. -/
theorem trim_commentOpen_append_ne (opened : List Char) :
    Text.trim (commentOpen ++ opened) ≠ commentClose := by
  intro h
  obtain ⟨before, after, hbefore, -, heq⟩ := (Text.trim_eq_iff trim_commentClose).1 h
  cases before with
  | nil => simp [commentOpen, commentClose] at heq
  | cons c before =>
      have hc : c = '/' := by
        simp only [commentOpen, List.cons_append, List.cons.injEq] at heq
        exact heq.1.symm
      have hblank := hbefore c (by simp)
      rw [hc] at hblank
      exact absurd hblank (by decide)

/-! ## The rules on lines -/

theorem filter_zipIdx_eq_nil_iff {p : List Char → Bool} {ls : List (List Char)} (start : Nat) :
    ((ls.zipIdx start).filter fun (line, _) => p line) = [] ↔ ∀ line ∈ ls, ¬ p line = true := by
  induction ls generalizing start with
  | nil => simp
  | cons line ls ih => by_cases h : p line = true <;> simp [h, ih]

/-- The lines on which the comment grammar has nothing to say. -/
theorem comment_eq_nil_iff_lines (s : List Char) :
    comment s = [] ↔ ∃ opened inner last,
      Text.lines s = (commentOpen ++ opened) :: (inner ++ [last]) ∧
        ¬ commentClose <:+: opened ∧ (∀ line ∈ inner, ¬ commentClose <:+: line) ∧
        Text.trim last = commentClose := by
  unfold comment
  cases hlines : Text.lines s with
  | nil => simp
  | cons first rest =>
      cases hopen : Text.after? commentOpen first with
      | none =>
          simp only [hopen, List.cons.injEq, List.cons_ne_nil, false_iff]
          rintro ⟨opened, inner, last, ⟨rfl, -⟩, -⟩
          simp [Text.after?_append] at hopen
      | some opened =>
          simp only [hopen]
          obtain rfl := Text.after?_eq_some_iff.1 hopen
          rcases List.eq_nil_or_concat rest with rfl | ⟨inner, last, rfl⟩
          · have hne := trim_commentOpen_append_ne opened
            simp [hne]
          · rw [List.concat_eq_append]
            simp only [List.append_eq_nil_iff, List.map_eq_nil_iff, bodyLines,
              List.dropLast_concat, filter_zipIdx_eq_nil_iff, List.getLast?_concat,
              Option.getD_some, Text.occurs_iff_infix, ite_eq_left_iff, ite_eq_right_iff,
              List.cons_ne_nil, imp_false, not_not]
            constructor
            · rintro ⟨⟨hlast, hopened⟩, hinner⟩
              exact ⟨opened, inner, last, rfl, hopened, hinner, hlast⟩
            · rintro ⟨opened', inner', last', heq, hopened, hinner, hlast⟩
              obtain ⟨hfirst, hrest⟩ := List.cons.inj heq
              obtain rfl := List.append_cancel_left hfirst
              obtain ⟨rfl, hsame⟩ := List.append_inj' hrest rfl
              obtain rfl := List.singleton_inj.1 hsame
              exact ⟨⟨hlast, hopened⟩, hinner⟩

/-! ## The rules on characters -/

theorem exists_enclosed_of_unlines {opened : List Char} {inner : List (List Char)}
    (hs : s = Text.unlines ((commentOpen ++ opened) :: inner) ++
      (before ++ commentClose ++ after) ++ ending)
    (hopened : ¬ commentClose <:+: opened) (hinner : ∀ line ∈ inner, ¬ commentClose <:+: line)
    (hbefore : ∀ c ∈ before, Text.isBlank c = true ∧ c ≠ '\n')
    (hafter : ∀ c ∈ after, Text.isBlank c = true ∧ c ≠ '\n')
    (hending : ending = [] ∨ ending = ['\n']) :
    ∃ body, Enclosed s body before after ending := by
  obtain ⟨body, hbody⟩ := Text.exists_unlines_eq_concat (List.cons_ne_nil opened inner)
  refine ⟨body, ?_, ?_, hbefore, hafter, hending⟩
  · calc
      s = commentOpen ++ Text.unlines (opened :: inner) ++
          (before ++ commentClose ++ after) ++ ending := by simp [hs]
      _ = commentOpen ++ body ++ '\n' :: before ++ commentClose ++ after ++ ending := by
        simp [hbody]
  · intro h
    have hsome : commentClose <:+: Text.unlines (opened :: inner) := by
      rw [hbody]
      exact List.infix_append_of_infix_left h
    obtain ⟨line, hline, hclose⟩ :=
      (Text.infix_unlines_iff newline_not_mem_commentClose commentClose_ne_nil).1 hsome
    rcases List.mem_cons.1 hline with rfl | hline
    · exact hopened hclose
    · exact hinner line hline hclose

theorem exists_enclosed_of_lines {opened last : List Char} {inner : List (List Char)}
    (hlines : Text.lines s = (commentOpen ++ opened) :: (inner ++ [last]))
    (hopened : ¬ commentClose <:+: opened) (hinner : ∀ line ∈ inner, ¬ commentClose <:+: line)
    (hlast : Text.trim last = commentClose) :
    ∃ body before after ending, Enclosed s body before after ending := by
  obtain ⟨text, ending, hs, hending, hpieces⟩ :=
    Text.exists_pieces_eq_lines (s := s) (by simp [hlines])
  rw [hlines] at hpieces
  obtain ⟨before, after, hbefore, hafter, rfl⟩ := (Text.trim_eq_iff trim_commentClose).1 hlast
  have hfeed : '\n' ∉ before ++ commentClose ++ after :=
    Text.not_mem_of_mem_pieces (s := text) (by simp [← hpieces])
  have htext : text =
      Text.unlines ((commentOpen ++ opened) :: inner) ++ (before ++ commentClose ++ after) := by
    have hjoin := Text.unlines_pieces text
    rw [← hpieces, ← List.cons_append, Text.unlines_append, Text.unlines_cons _ [],
      Text.unlines_nil, ← List.append_assoc] at hjoin
    exact (List.append_cancel_right hjoin).symm
  have hblanks : ∀ c ∈ before ++ after, Text.isBlank c = true ∧ c ≠ '\n' := by
    intro c hc
    refine ⟨(List.mem_append.1 hc).elim (hbefore c) (hafter c), ?_⟩
    rintro rfl
    rcases List.mem_append.1 hc with hc | hc <;> exact hfeed (by simp [hc])
  rw [htext] at hs
  obtain ⟨body, henclosed⟩ := exists_enclosed_of_unlines hs hopened hinner
    (fun c hc => hblanks c (List.mem_append_left after hc))
    (fun c hc => hblanks c (List.mem_append_right before hc)) hending
  exact ⟨body, before, after, ending, henclosed⟩

theorem Enclosed.lines_eq (h : Enclosed s body before after ending) :
    ∃ opened inner, Text.pieces body = opened :: inner ∧
      Text.lines s = (commentOpen ++ opened) :: (inner ++ [before ++ commentClose ++ after]) := by
  cases hbody : Text.pieces body with
  | nil => exact absurd hbody (Text.pieces_ne_nil body)
  | cons opened inner =>
      refine ⟨opened, inner, rfl, ?_⟩
      have hfeed : '\n' ∉ before ++ commentClose ++ after := by
        simp only [List.mem_append, not_or]
        exact ⟨⟨fun hc => (h.before_blank _ hc).2 rfl, newline_not_mem_commentClose⟩,
          fun hc => (h.after_blank _ hc).2 rfl⟩
      have hfirst : Text.pieces (commentOpen ++ body) = (commentOpen ++ opened) :: inner :=
        Text.pieces_append_of_not_mem (by decide) hbody
      have hpieces : Text.pieces
          (commentOpen ++ body ++ '\n' :: (before ++ commentClose ++ after)) =
          (commentOpen ++ opened) :: (inner ++ [before ++ commentClose ++ after]) := by
        rw [Text.pieces_append_newline, hfirst, Text.pieces_of_not_mem hfeed, List.cons_append]
      have htext : s =
          commentOpen ++ body ++ '\n' :: (before ++ commentClose ++ after) ++ ending := by
        simp [h.text_eq]
      rcases h.ending_eq with hending | hending
      · have hlast : (Text.pieces
            (commentOpen ++ body ++ '\n' :: (before ++ commentClose ++ after))).getLast? ≠
            some [] := by
          rw [hpieces, ← List.cons_append, List.getLast?_concat]
          simp [commentClose]
        rw [htext, hending, List.append_nil, Text.lines_of_getLast? hlast, hpieces]
      · rw [htext, hending, Text.lines_append_newline, hpieces]

theorem Enclosed.comment_eq_nil (h : Enclosed s body before after ending) : comment s = [] := by
  obtain ⟨opened, inner, hbody, hlines⟩ := h.lines_eq
  have hnone : ∀ line ∈ opened :: inner, ¬ commentClose <:+: line := by
    intro line hline hclose
    have hsome : commentClose <:+: Text.unlines (opened :: inner) :=
      (Text.infix_unlines_iff newline_not_mem_commentClose commentClose_ne_nil).2
        ⟨line, hline, hclose⟩
    rw [← hbody, Text.unlines_pieces, Text.infix_append_cons_iff newline_not_mem_commentClose]
      at hsome
    rcases hsome with hsome | hsome
    · exact h.not_closed hsome
    · exact absurd hsome (by decide)
  refine (comment_eq_nil_iff_lines s).2
    ⟨opened, inner, _, hlines, hnone opened (by simp), fun line hline => hnone line (by simp [hline]),
      ?_⟩
  exact (Text.trim_eq_iff trim_commentClose).2
    ⟨before, after, fun c hc => (h.before_blank c hc).1, fun c hc => (h.after_blank c hc).1, rfl⟩

theorem Enclosed.afterComment_append (h : Enclosed s body before after ending)
    (source : List Char) :
    Artifact.afterComment (s ++ source) = .ok (after ++ ending ++ source) := by
  have hnone : ¬ commentClose <:+: body ++ '\n' :: before ++ commentClose.dropLast := by
    rw [List.append_assoc, List.cons_append,
      Text.infix_append_cons_iff newline_not_mem_commentClose]
    rintro (hclose | hclose)
    · exact h.not_closed hclose
    · have hslash : '/' ∉ before ++ commentClose.dropLast := by
        simp only [commentClose, List.dropLast, List.mem_append, List.mem_singleton, not_or]
        exact ⟨fun hc => absurd (h.before_blank _ hc).1 (by decide), by decide⟩
      exact Text.not_infix_of_not_mem (by decide) hslash hclose
  have hcut := Text.cut?_append commentClose_ne_nil hnone (after ++ ending ++ source)
  have htext : s ++ source = commentOpen ++
      (body ++ '\n' :: before ++ commentClose ++ (after ++ ending ++ source)) := by
    simp [h.text_eq]
  rw [htext]
  unfold Artifact.afterComment
  rw [Text.after?_append]
  dsimp only
  rw [hcut]

/-- The comment grammar has nothing to say exactly about texts that are one comment with its close on
a line of its own, and the compiler then goes on behind that close. -/
theorem comment_eq_nil_iff_enclosed (s : List Char) :
    (comment s = [] ↔ ∃ body before after ending, Enclosed s body before after ending) ∧
      ∀ body before after ending, Enclosed s body before after ending →
        Artifact.afterComment s = .ok (after ++ ending) := by
  refine ⟨⟨fun h => ?_, ?_⟩, ?_⟩
  · obtain ⟨opened, inner, last, hlines, hopened, hinner, hlast⟩ :=
      (comment_eq_nil_iff_lines s).1 h
    exact exists_enclosed_of_lines hlines hopened hinner hlast
  · rintro ⟨body, before, after, ending, h⟩
    exact h.comment_eq_nil
  · intro body before after ending h
    simpa using h.afterComment_append []

/-- The star of the open is not one of a close, and blanks may stand beside a close. -/
theorem comment_eq_nil_of_blank_close :
    let s := "/*/\n\t*/ \n".toList
    Enclosed s ['/'] ['\t'] [' '] ['\n'] ∧ comment s = [] ∧
      Artifact.afterComment s = .ok [' ', '\n'] := by
  intro s
  have henclosed : Enclosed s ['/'] ['\t'] [' '] ['\n'] :=
    ⟨by decide, by decide, by decide, by decide, by decide⟩
  have hlanguage := comment_eq_nil_iff_enclosed s
  exact ⟨henclosed, hlanguage.1.2 ⟨_, _, _, _, henclosed⟩, hlanguage.2 _ _ _ _ henclosed⟩

end Lint

end SelfBuild
