import SelfBuild.Artifact
import SelfBuild.Proofs.Preamble.Lines
import SelfBuild.Text.Utf8

/-!
# Reading an artifact back

Both readers of an artifact find the source as it was given, also where the source imitates a
preamble: the first close line and the first close of the comment are the preamble's own.
-/

namespace SelfBuild

namespace Artifact

open Preamble

variable {s body : List Char}

theorem closeLine_eq : closeLine = '\n' :: (commentClose ++ ['\n']) := rfl

/-- A close line ends in a line feed, so a copy of it cannot reach into the close that follows. -/
theorem closeLine_infix_before (h : closeLine <:+: s ++ closeLine.dropLast) :
    closeLine <:+: s ++ ['\n'] := by
  have hdrop : s ++ closeLine.dropLast = s ++ ['\n'] ++ ['*'] ++ ['/'] := by
    simp [closeLine, commentClose]
  have hlast : ∀ (t : List Char) (c : Char), c ≠ '\n' → closeLine <:+: t ++ [c] →
      closeLine <:+: t := by
    intro t c hc h
    rcases List.infix_concat_iff.1 h with ⟨front, hfront⟩ | h
    · rw [closeLine_eq, ← List.cons_append, ← List.append_assoc] at hfront
      exact absurd (List.append_inj_right' hfront rfl) (by simp [Ne.symm hc])
    · exact h
  rw [hdrop] at h
  exact hlast _ '*' (by decide) (hlast _ '/' (by decide) h)

theorem splitChars?_enclosed_append (h : Lint.Enclosed s body [] [] ['\n'])
    (source : List Char) : splitChars? (s ++ source) = some (s, source) := by
  have hs : s = commentOpen ++ body ++ closeLine := by simp [h.text_eq, closeLine]
  have hnone : ¬ closeLine <:+: commentOpen ++ body ++ closeLine.dropLast := by
    intro hclose
    have hbefore := closeLine_infix_before hclose
    have hbody : closeLine <:+: body ++ ['\n'] := by
      rw [List.append_assoc, commentOpen, List.cons_append, List.cons_append, List.nil_append,
        List.infix_cons_iff, List.infix_cons_iff] at hbefore
      rcases hbefore with hstart | hstart | hbefore
      · exact absurd (List.cons_prefix_cons.1 hstart).1 (by decide)
      · exact absurd (List.cons_prefix_cons.1 hstart).1 (by decide)
      · exact hbefore
    have hinner : commentClose <:+: closeLine := ⟨['\n'], ['\n'], rfl⟩
    rcases (Text.infix_append_cons_iff Lint.newline_not_mem_commentClose).1
      (hinner.trans hbody) with h' | h'
    · exact h.not_closed h'
    · exact Lint.commentClose_ne_nil (List.infix_nil.1 h')
  have hcut := Text.cut?_append (by decide) hnone source
  rw [splitChars?, hs, hcut]
  rfl

theorem isStemChar_of_mem_stem (project : Project) :
    ∀ c ∈ (FileName.stem project).toList, FileName.isStemChar c = true := by
  intro c hc
  rw [FileName.stem, String.toList_ofList] at hc
  exact FileName.isStemChar_of_mem_stemOf hc

theorem plainRoot_of_mem_standardRoots : ∀ root ∈ standardRoots, PlainRoot root := by
  have hplain : ∀ root ∈ standardRoots, ∀ c ∈ root, c ∉ ['\n', '"', '^', '(', ')'] := by decide
  have hstar : ∀ root ∈ standardRoots, '*' ∉ root := by decide
  have hjump : ∀ root ∈ standardRoots, 'g' ∉ root.map Char.toLower := by decide
  exact fun root h => ⟨hplain root h, Text.not_infix_of_not_mem (by decide) (hstar root h),
    Text.not_infix_of_not_mem (by decide) (hjump root h)⟩

/-- The preamble of an artifact is one comment that ends with the first close line. -/
theorem exists_enclosed_preambleChars (project : Project) (options : Options) :
    ∃ body, Lint.Enclosed (preambleChars project options) body [] [] ['\n'] := by
  have h := Preamble.exists_enclosed options (isStemChar_of_mem_stem project)
    plainRoot_of_mem_standardRoots
  rwa [String.ofList_toList] at h

theorem toList_compose (project : Project) (options : Options) (source : String) :
    (compose project options source).toList = preambleChars project options ++ source.toList := by
  rw [compose, chars, String.toList_ofList]

theorem preambleChars_eq_text (project : Project) (options : Options) :
    String.ofList (preambleChars project options) =
      Preamble.text options (FileName.stem project)
        (Switches.ofOptions options (FileName.stem project)) (standardRoots.map String.ofList) := by
  have hroots : (standardRoots.map String.ofList).map String.toList = standardRoots := by
    simp [Function.comp_def]
  rw [Preamble.text, hroots]
  rfl

/-- The bytes of an artifact are those of its preamble and then those of the source. -/
theorem encode_compose (project : Project) (options : Options) (source : String) :
    let stem := FileName.stem project
    Text.Utf8.encode (compose project options source) =
      Text.Utf8.encode (Preamble.text options stem (Switches.ofOptions options stem)
        (standardRoots.map String.ofList)) ++ Text.Utf8.encode source := by
  dsimp only
  rw [← preambleChars_eq_text, ← Text.Utf8.encode_append, compose, chars, String.ofList_append,
    String.ofList_toList]

/-- An artifact splits into its preamble, which does not depend on the source, and the source; and
the compiler reads the rest of the close line and then the source. -/
theorem split_compose (project : Project) (options : Options) (source : String) :
    let stem := FileName.stem project
    let preamble := Preamble.text options stem (Switches.ofOptions options stem)
      (standardRoots.map String.ofList)
    split? (compose project options source) = some (preamble, source) ∧
      afterComment (compose project options source).toList = .ok ('\n' :: source.toList) := by
  obtain ⟨body, henclosed⟩ := exists_enclosed_preambleChars project options
  dsimp only
  rw [split?, toList_compose, splitChars?_enclosed_append henclosed, ← preambleChars_eq_text]
  refine ⟨by simp, ?_⟩
  simpa using henclosed.afterComment_append source.toList

end Artifact

end SelfBuild
