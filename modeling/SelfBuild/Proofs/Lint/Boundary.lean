import SelfBuild.Lint.Batch
import SelfBuild.Proofs.Artifact

/-!
# Where a preamble ends

The splitter ends a preamble with the first line that is the closing delimiter, and the compiler ends
the comment with the first close of all.  The two ends can differ: the close of the comment may stand
inside a line, and the comment may not be opened at all.  The comment grammar accepts exactly those
preambles for which they are the same, so behind an accepted preamble both readers find one source.
-/

namespace SelfBuild

namespace Lint

open Preamble

variable {s front body before after ending source : List Char}

theorem exists_enclosed_of_comment_eq_nil (h : comment s = []) :
    ∃ body before after ending, Enclosed s body before after ending := by
  obtain ⟨opened, inner, last, hlines, hopened, hinner, hlast⟩ := (comment_eq_nil_iff_lines s).1 h
  exact exists_enclosed_of_lines hlines hopened hinner hlast

theorem eq_nil_or_mem_of_append_eq_concat {xs ys : List Char} {c : Char}
    (h : xs ++ after = ys ++ [c]) : after = [] ∨ c ∈ after := by
  rcases List.eq_nil_or_concat after with rfl | ⟨init, d, rfl⟩
  · exact .inl rfl
  · rw [List.concat_eq_append, ← List.append_assoc] at h
    have hc : d = c := List.singleton_inj.1 (List.append_inj_right' h rfl)
    simp [hc]

/-- A comment whose text ends in a close line has nothing beside its own close. -/
theorem Enclosed.after_eq_nil (h : Enclosed s body before after ending)
    (hs : s = front ++ Artifact.closeLine) : after = [] ∧ ending = ['\n'] := by
  have htext : commentOpen ++ body ++ '\n' :: before ++ commentClose ++ after ++ ending =
      front ++ '\n' :: commentClose ++ ['\n'] := by
    rw [← h.text_eq, hs, Artifact.closeLine_eq]
    simp
  have hending : ending = ['\n'] := by
    rcases h.ending_eq with rfl | hending
    · rw [List.append_nil] at htext
      rcases eq_nil_or_mem_of_append_eq_concat htext with rfl | hfeed
      · rw [List.append_nil] at htext
        rcases eq_nil_or_mem_of_append_eq_concat htext with hnil | hfeed
        · exact absurd hnil commentClose_ne_nil
        · exact absurd hfeed newline_not_mem_commentClose
      · exact absurd rfl (h.after_blank _ hfeed).2
    · exact hending
  rw [hending] at htext
  have hslash : commentOpen ++ body ++ '\n' :: before ++ commentClose ++ after =
      front ++ ['\n', '*'] ++ ['/'] := by
    simpa [commentClose] using List.append_cancel_right htext
  rcases eq_nil_or_mem_of_append_eq_concat hslash with hafter | hmem
  · exact ⟨hafter, hending⟩
  · exact absurd (h.after_blank _ hmem).1 (by decide)

theorem exists_of_afterComment_eq_ok {rest : List Char} (h : Artifact.afterComment s = .ok rest) :
    ∃ inner, s = commentOpen ++ (inner ++ commentClose ++ rest) ∧ ¬ commentClose <:+: inner := by
  unfold Artifact.afterComment at h
  cases hopen : Text.after? commentOpen s with
  | none => simp [hopen] at h
  | some opened =>
      simp only [hopen] at h
      cases hcut : Text.cut? commentClose opened with
      | none => simp [hcut] at h
      | some parts =>
          obtain ⟨inner, found⟩ := parts
          simp only [hcut, Except.ok.injEq] at h
          subst h
          obtain ⟨hparts, hnone⟩ := (Text.cut?_eq_some_iff commentClose_ne_nil).1 hcut
          refine ⟨inner, ?_, fun hinner => hnone (List.infix_append_of_infix_left hinner)⟩
          rw [Text.after?_eq_some_iff.1 hopen, hparts]

/-- Where the compiler finds the rest of a close line and the source, the text up to there is one
comment. -/
theorem exists_enclosed_of_afterComment
    (h : Artifact.afterComment (front ++ Artifact.closeLine ++ source) = .ok ('\n' :: source)) :
    ∃ body, Enclosed (front ++ Artifact.closeLine) body [] [] ['\n'] := by
  obtain ⟨inner, htext, hnone⟩ := exists_of_afterComment_eq_ok h
  have hparts : front ++ Artifact.closeLine = commentOpen ++ (inner ++ commentClose ++ ['\n']) := by
    have hsource : front ++ Artifact.closeLine ++ source =
        commentOpen ++ (inner ++ commentClose ++ ['\n']) ++ source := by
      rw [htext]
      simp
    exact List.append_cancel_right hsource
  have hfront : commentOpen ++ inner = front ++ ['\n'] := by
    have hclose : commentOpen ++ inner ++ (commentClose ++ ['\n']) =
        front ++ ['\n'] ++ (commentClose ++ ['\n']) := by
      rw [Artifact.closeLine_eq] at hparts
      simpa using hparts.symm
    exact List.append_cancel_right hclose
  rcases List.eq_nil_or_concat inner with rfl | ⟨body, c, rfl⟩
  · have hopen : ['/'] ++ ['*'] = front ++ ['\n'] := by
      rw [← hfront]
      rfl
    rcases eq_nil_or_mem_of_append_eq_concat hopen with hnil | hfeed
    · exact absurd hnil (by decide)
    · exact absurd hfeed (by decide)
  · rw [List.concat_eq_append] at hfront hparts hnone
    have hc : c = '\n' := by
      rw [← List.append_assoc] at hfront
      exact List.singleton_inj.1 (List.append_inj_right' hfront rfl)
    subst hc
    refine ⟨body, ?_, ?_, by simp, by simp, .inr rfl⟩
    · rw [hparts]
      simp
    · exact fun hbody => hnone (List.infix_append_of_infix_left hbody)

/-- The comment grammar accepts the preamble of an artifact exactly when the compiler goes on right
behind its last delimiter; and where the linter finds nothing at all, the compiler reads the rest of
the close line and then the very source that the splitter finds. -/
theorem comment_eq_nil_iff_afterComment {artifact preamble source : String}
    (h : Artifact.split? artifact = some (preamble, source)) :
    (comment preamble.toList = [] ↔
      commentOpen <+: artifact.toList ∧
        Artifact.afterComment artifact.toList = .ok ('\n' :: source.toList)) ∧
      (artifact? artifact.toList = some [] →
        Artifact.afterComment artifact.toList = .ok ('\n' :: source.toList)) := by
  obtain ⟨⟨text, rest⟩, hsplit, hpair⟩ := Option.map_eq_some_iff.1 h
  simp only [Prod.mk.injEq] at hpair
  obtain ⟨rfl, rfl⟩ := hpair
  obtain ⟨⟨front, found⟩, hcut, hparts⟩ := Option.map_eq_some_iff.1 hsplit
  simp only [Prod.mk.injEq] at hparts
  obtain ⟨rfl, rfl⟩ := hparts
  have hartifact : artifact.toList = front ++ Artifact.closeLine ++ found :=
    Text.eq_append_of_cut? hcut
  have haccepted : comment (front ++ Artifact.closeLine) = [] →
      Artifact.afterComment artifact.toList = .ok ('\n' :: found) := by
    intro hcomment
    obtain ⟨body, before, after, ending, henclosed⟩ := exists_enclosed_of_comment_eq_nil hcomment
    obtain ⟨rfl, rfl⟩ := henclosed.after_eq_nil rfl
    have hafter := henclosed.afterComment_append found
    rw [hartifact, hafter]
    rfl
  rw [String.toList_ofList, String.toList_ofList]
  refine ⟨⟨fun hcomment => ⟨?_, haccepted hcomment⟩, ?_⟩, ?_⟩
  · obtain ⟨inner, htext, -⟩ := exists_of_afterComment_eq_ok (haccepted hcomment)
    exact ⟨_, htext.symm⟩
  · rintro ⟨-, hafter⟩
    rw [hartifact] at hafter
    obtain ⟨body, henclosed⟩ := exists_enclosed_of_afterComment hafter
    exact henclosed.comment_eq_nil
  · intro hclean
    apply haccepted
    simp only [artifact?, hsplit, Option.map_some, Option.some.injEq, Lint.preamble,
      List.append_eq_nil_iff] at hclean
    exact hclean.1

/-- The source may hold close lines and closes of its own. -/
theorem comment_eq_nil_iff_afterComment_of_imitation :
    let artifact := "/* exit\nexit\n*/\nx */\n*/\ny"
    Artifact.split? artifact = some ("/* exit\nexit\n*/\n", "x */\n*/\ny") ∧
      comment "/* exit\nexit\n*/\n".toList = [] ∧ artifact? artifact.toList = some [] ∧
      Artifact.afterComment artifact.toList = .ok "\nx */\n*/\ny".toList := by
  intro artifact
  have hsplit : Artifact.split? artifact = some ("/* exit\nexit\n*/\n", "x */\n*/\ny") := by
    decide +kernel
  have hclean : artifact? artifact.toList = some [] := by decide +kernel
  have hboth := comment_eq_nil_iff_afterComment hsplit
  have hafter := hboth.2 hclean
  have hopen : commentOpen <+: artifact.toList := by decide +kernel
  exact ⟨hsplit, hboth.1.2 ⟨hopen, hafter⟩, hclean, hafter⟩

end Lint

end SelfBuild
