import SelfBuild.Proofs.Artifact
import SelfBuild.Proofs.Artifact.Splitting

/-!
# Close lines

The linter takes a close line with blanks beside the delimiter, as the compiler does; the splitter looks for
a line that is the delimiter and nothing else.  A preamble without findings that ends with such a line is
split off from whatever follows it, and one with blanks on that line is not split off at all.
-/

namespace SelfBuild

namespace Lint

open Preamble

variable {s opened last : List Char} {inner : List (List Char)}

/-- A close line is one of the pieces between line feeds. -/
theorem mem_pieces_of_closeLine (h : Artifact.closeLine <:+: s) : commentClose ∈ Text.pieces s := by
  obtain ⟨front, rest, rfl⟩ := h
  have hsplit : front ++ Artifact.closeLine ++ rest = front ++ '\n' :: (commentClose ++ '\n' :: rest) := by
    simp [Artifact.closeLine_eq]
  have hclose : Text.pieces commentClose = [commentClose] :=
    Text.pieces_of_not_mem newline_not_mem_commentClose
  rw [hsplit, Text.pieces_append_newline, Text.pieces_append_newline, hclose]
  simp

/-- Of the lines of a comment, only the last can be the closing delimiter. -/
theorem last_eq_of_mem_pieces (hpieces : Text.pieces s = (commentOpen ++ opened) :: (inner ++ [last]))
    (hinner : ∀ line ∈ inner, ¬ commentClose <:+: line)
    (h : commentClose ∈ Text.pieces (s ++ ['\n'])) : last = commentClose := by
  rw [Text.pieces_append_newline, hpieces] at h
  simp only [List.mem_append, List.mem_cons, List.not_mem_nil, or_false] at h
  rcases h with (h | h | h) | h
  · exact absurd h (by simp [commentOpen, commentClose])
  · exact absurd List.infix_rfl (hinner _ h)
  · exact h.symm
  · exact absurd h (by decide)

theorem splitChars?_of_lines (hpieces : Text.pieces s = (commentOpen ++ opened) :: (inner ++ [commentClose]))
    (hopened : ¬ commentClose <:+: opened) (hinner : ∀ line ∈ inner, ¬ commentClose <:+: line)
    (source : List Char) :
    Artifact.splitChars? (s ++ ['\n'] ++ source) = some (s ++ ['\n'], source) := by
  have hs : s ++ ['\n'] = Text.unlines ((commentOpen ++ opened) :: inner) ++
      ([] ++ commentClose ++ []) ++ ['\n'] := by
    rw [← Text.unlines_pieces, hpieces, ← List.cons_append, Text.unlines_append]
    simp
  obtain ⟨body, henclosed⟩ := exists_enclosed_of_unlines hs hopened hinner (by simp) (by simp) (.inr rfl)
  exact Artifact.splitChars?_enclosed_append henclosed source

/-- A preamble without findings that ends with a line feed is split off from any source, if its last line is
the closing delimiter and nothing else.  If there are blanks on that line, the preamble cannot be split off
even where nothing follows it. -/
theorem split_append_of_clean {text : String} (hclean : preamble text.toList = [])
    (hfeed : text.toList.getLast? = some '\n') :
    let last? := (Text.lines text.toList).getLast?
    (last? = some commentClose →
      (∀ source, Artifact.split? (text ++ source) = some (text, source)) ∧
        artifact? text.toList = some []) ∧
      (last? ≠ some commentClose → Artifact.split? text = none ∧ artifact? text.toList = none) := by
  obtain ⟨s, hs⟩ := List.getLast?_eq_some_iff.1 hfeed
  obtain ⟨opened, inner, last, hlines, hopened, hinner, -⟩ :=
    (comment_eq_nil_iff_lines _).1 (List.append_eq_nil_iff.1 hclean).1
  have hpieces : Text.pieces s = (commentOpen ++ opened) :: (inner ++ [last]) := by
    rwa [hs, Text.lines_append_newline] at hlines
  intro last?
  have hlast : last? = some last := by
    simp only [last?, hlines, ← List.cons_append, List.getLast?_concat]
  rw [hlast, ne_eq, Option.some.injEq]
  constructor
  · rintro rfl
    have hsplit := splitChars?_of_lines hpieces hopened hinner
    refine ⟨fun source => ?_, ?_⟩
    · rw [Artifact.split?, String.toList_append, hs, hsplit, ← hs]
      simp
    · have hnothing := hsplit []
      rw [List.append_nil, ← hs] at hnothing
      rw [artifact?, hnothing]
      exact congrArg some hclean
  · intro hblanks
    have hnone := Artifact.splitChars?_eq_none_iff.2 fun h =>
      hblanks (last_eq_of_mem_pieces hpieces hinner (hs ▸ mem_pieces_of_closeLine h))
    exact ⟨by rw [Artifact.split?, hnone]; rfl, by rw [artifact?, hnone]; rfl⟩

theorem split_append_of_clean_with_imitation :
    let text := "/* 2>NUL\n  goto :eof\n*/\n"
    let source := "x\n*/\ny"
    preamble text.toList = [] ∧ text.toList.getLast? = some '\n' ∧
      (Text.lines text.toList).getLast? = some commentClose ∧
      Artifact.split? (text ++ source) = some (text, source) ∧ artifact? text.toList = some [] := by
  intro text source
  have hclean : preamble text.toList = [] := by decide +kernel
  have hfeed : text.toList.getLast? = some '\n' := by decide
  have hlast : (Text.lines text.toList).getLast? = some commentClose := by decide
  obtain ⟨hsplit, hfound⟩ := (split_append_of_clean hclean hfeed).1 hlast
  exact ⟨hclean, hfeed, hlast, hsplit source, hfound⟩

/-- Preambles without findings that are not split off: the close line is indented, or all lines end with a
carriage return. -/
theorem clean_without_split :
    let indented := "/*\nexit\n */\n"
    let returned := "/*\r\nexit\r\n*/\r\n"
    (preamble indented.toList = [] ∧ Artifact.split? indented = none ∧
      artifact? indented.toList = none) ∧
      preamble returned.toList = [] ∧ Artifact.split? returned = none ∧
        artifact? returned.toList = none := by
  intro indented returned
  refine ⟨⟨?_, ?_, ?_⟩, ?_, ?_, ?_⟩ <;> decide +kernel

end Lint

end SelfBuild
