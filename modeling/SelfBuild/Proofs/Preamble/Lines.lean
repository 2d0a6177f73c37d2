import SelfBuild.Preamble
import SelfBuild.Proofs.Lint.Comment
import SelfBuild.Proofs.Switches

/-!
# The lines of a preamble

A line between the delimiters is one of a fixed list, or it shows the stem, an option, a root or the
compiler call at one place.  What a preamble cannot contain follows line by line: whatever the stem
and the options are, it is one comment that nothing before the close line ends.
-/

namespace SelfBuild

namespace Preamble

variable {options : Options} {stem line : List Char} {roots : List (List Char)}

/-! ## What a line can be -/

/-- How far a loop over versions can stand from the margin. -/
def indents : List (List Char) :=
  [[], indent]

/-- The lines that are the same in every preamble. -/
def fixedLines : List (List Char) :=
  title ++ announcement ++ [forgetLine, missingLine, blockEnd] ++ indents.flatMap loopRest ++
    notice ++ verdict ++ farewell ++ [leaveLine]

/-- A line between the delimiters, told by what it shows. -/
inductive ScriptLine (options : Options) (stem : List Char) (roots : List (List Char)) :
    List Char -> Prop where
  | fixed {line : List Char} (mem : line ∈ fixedLines) : ScriptLine options stem roots line
  | target : ScriptLine options stem roots (targetLine stem)
  | architecture : ScriptLine options stem roots (architectureLine options.architecture)
  | output : ScriptLine options stem roots (outputLine options.output)
  | versions {pad root : List Char} (hpad : pad ∈ indents) (hroot : root ∈ roots) :
      ScriptLine options stem roots (versionsLine pad root)
  | call : ScriptLine options stem roots
      (compilerCall (Switches.ofOptions options (String.ofList stem)))
  | created : ScriptLine options stem roots (createdLine stem)

theorem ScriptLine.of_mem_searchLoop {pad root : List Char} (hpad : pad ∈ indents)
    (hroot : root ∈ roots) (h : line ∈ searchLoop pad root) :
    ScriptLine options stem roots line := by
  rcases List.mem_cons.1 h with rfl | h
  · exact .versions hpad hroot
  · have hrest : line ∈ indents.flatMap loopRest := List.mem_flatMap.2 ⟨pad, hpad, h⟩
    exact .fixed (by simp only [fixedLines, List.mem_append, hrest, true_or, or_true])

theorem ScriptLine.of_mem_laterRoot {root : List Char} (hroot : root ∈ roots)
    (h : line ∈ laterRoot root) : ScriptLine options stem roots line := by
  simp only [laterRoot, List.mem_cons, List.mem_append, List.not_mem_nil, or_false] at h
  rcases h with rfl | h | rfl
  · exact .fixed (by simp only [fixedLines, List.mem_append, List.mem_cons, true_or, or_true])
  · exact .of_mem_searchLoop (by simp [indents]) hroot h
  · exact .fixed (by simp only [fixedLines, List.mem_append, List.mem_cons, true_or, or_true])

theorem ScriptLine.of_mem_discovery (h : line ∈ discovery roots) :
    ScriptLine options stem roots line := by
  rcases List.mem_cons.1 h with rfl | h
  · exact .fixed (by simp only [fixedLines, List.mem_append, List.mem_cons, true_or, or_true])
  · cases roots with
    | nil => exact absurd h List.not_mem_nil
    | cons first later =>
        rcases List.mem_append.1 h with h | h
        · exact .of_mem_searchLoop (by simp [indents]) List.mem_cons_self h
        · obtain ⟨root, hroot, h⟩ := List.mem_flatMap.1 h
          exact .of_mem_laterRoot (List.mem_cons_of_mem first hroot) h

theorem ScriptLine.of_mem
    (h : line ∈ scriptLines options stem (Switches.ofOptions options (String.ofList stem)) roots) :
    ScriptLine options stem roots line := by
  simp only [scriptLines, banner, report, List.mem_append, List.mem_cons, List.not_mem_nil,
    or_false] at h
  rcases h with (((((h | rfl | rfl | rfl) | h) | h) | h) | rfl) | ((h | rfl) | h) | rfl
  · exact .fixed (by simp only [fixedLines, List.mem_append, h, true_or])
  · exact .target
  · exact .architecture
  · exact .output
  · exact .fixed (by simp only [fixedLines, List.mem_append, h, true_or, or_true])
  · exact .of_mem_discovery h
  · exact .fixed (by simp only [fixedLines, List.mem_append, h, true_or, or_true])
  · exact .call
  · exact .fixed (by simp only [fixedLines, List.mem_append, h, true_or, or_true])
  · exact .created
  · exact .fixed (by simp only [fixedLines, List.mem_append, h, true_or, or_true])
  · exact .fixed (by simp only [fixedLines, List.mem_append, List.mem_singleton, or_true])

/-! ## What no line contains -/

/-- A root that can stand in a script: none of its characters is a line feed or block syntax, and it
neither closes the comment nor jumps. -/
structure PlainRoot (root : List Char) : Prop where
  no_syntax : ∀ c ∈ root, c ∉ ['\n', '"', '^', '(', ')']
  not_closed : ¬ commentClose <:+: root
  no_jump : ¬ "goto".toList <:+: root.map Char.toLower

/-- A character that neither ends a line nor starts a close. -/
def Quiet (c : Char) : Prop :=
  c ≠ '\n' ∧ c ≠ '*'

instance (c : Char) : Decidable (Quiet c) := inferInstanceAs (Decidable (_ ∧ _))

theorem Quiet.of_isStemChar {c : Char} (h : FileName.isStemChar c = true) : Quiet c := by
  constructor <;> rintro rfl <;> exact absurd h (by decide)

theorem forall_mem_framed {p : Char → Prop} {head middle rest : List Char}
    (hhead : ∀ c ∈ head, p c) (hmiddle : ∀ c ∈ middle, p c) (hrest : ∀ c ∈ rest, p c) :
    ∀ c ∈ head ++ middle ++ rest, p c :=
  List.forall_mem_append.2 ⟨List.forall_mem_append.2 ⟨hhead, hmiddle⟩, hrest⟩

theorem safe_of_quiet {s : List Char} (h : ∀ c ∈ s, Quiet c) :
    '\n' ∉ s ∧ ¬ commentClose <:+: s :=
  ⟨fun hc => (h _ hc).1 rfl, Text.not_infix_of_not_mem (by decide) fun hc => (h _ hc).2 rfl⟩

/-- The texts around the stem in a compiler call. -/
def callTexts : List (List Char) :=
  ["\"%CSC%\" ".toList, "/nologo /out:\"".toList, ".exe\"".toList, [' '], selfReference] ++
    Switches.vocabulary.map String.toList

theorem forall_mem_compilerCall {p : Char → Prop} (htexts : ∀ text ∈ callTexts, ∀ c ∈ text, p c)
    (hstem : ∀ c ∈ stem, p c) :
    ∀ c ∈ compilerCall (Switches.ofOptions options (String.ofList stem)), p c := by
  simp only [callTexts, List.cons_append, List.nil_append, List.forall_mem_cons] at htexts
  obtain ⟨hcompiler, hout, hexe, hspace, hself, hwords⟩ := htexts
  have htail : ∀ c ∈ Switches.tail options, p c := by
    intro c hc
    rcases Switches.mem_tail hc with rfl | ⟨word, hword, hc⟩
    · exact hspace.1
    · exact hwords _ (List.mem_map_of_mem hword) c hc
  have hline : ∀ c ∈ (Switches.ofOptions options (String.ofList stem)).line.toList, p c := by
    rw [Switches.line_ofOptions]
    have hname : ∀ c ∈ (String.ofList stem).toList, p c := by rwa [String.toList_ofList]
    exact List.forall_mem_append.2 ⟨forall_mem_framed hout hname hexe, htail⟩
  exact List.forall_mem_append.2
    ⟨forall_mem_framed hcompiler hline (List.forall_mem_cons.2 hspace), hself⟩

theorem quiet_compilerCall (hstem : ∀ c ∈ stem, Quiet c) :
    ∀ c ∈ compilerCall (Switches.ofOptions options (String.ofList stem)), Quiet c :=
  forall_mem_compilerCall (by decide +kernel) hstem

/-- The call in pieces: its quotes stand around the compiler, the program and the script, and nowhere else. -/
theorem compilerCall_eq (options : Options) (stem : List Char) :
    compilerCall (Switches.ofOptions options (String.ofList stem)) =
      '"' :: ("%CSC%".toList ++ '"' :: (" /nologo /out:".toList ++
        '"' :: ((stem ++ ".exe".toList) ++ '"' :: (Switches.tail options ++ [' '] ++
          '"' :: ("%~f0".toList ++ ['"']))))) := by
  unfold compilerCall
  simp only [Switches.line_ofOptions, String.toList_ofList, selfReference, String.reduceToList,
    List.cons_append, List.nil_append, List.append_assoc]

/-- The star of a version pattern stands before a parenthesis, so it makes no close with a root. -/
theorem versionsLine_eq (pad root : List Char) :
    versionsLine pad root =
      (pad ++ "for /d %%i in ".toList) ++ '(' :: (root ++ '\\' :: "v*) do (".toList) := by
  simp [versionsLine]

theorem versionsLine_safe {pad root : List Char} (hpad : pad ∈ indents) (hroot : PlainRoot root) :
    '\n' ∉ versionsLine pad root ∧ ¬ commentClose <:+: versionsLine pad root := by
  have hheads : ∀ pad ∈ indents, ∀ c ∈ pad ++ "for /d %%i in ".toList, Quiet c := by decide
  have hhead := safe_of_quiet (hheads pad hpad)
  rw [versionsLine_eq]
  constructor
  · intro h
    rcases List.mem_append.1 h with h | h
    · exact hhead.1 h
    · rcases List.mem_append.1 (List.mem_of_ne_of_mem (by decide) h) with h | h
      · exact hroot.no_syntax _ h (by decide)
      · exact absurd h (by decide)
  · intro h
    rcases (Text.infix_append_cons_iff (by decide)).1 h with h | h
    · exact hhead.2 h
    · rcases (Text.infix_append_cons_iff (by decide)).1 h with h | h
      · exact hroot.not_closed h
      · have hslash : '/' ∉ "v*) do (".toList := by decide
        exact Text.not_infix_of_not_mem (by decide) hslash h

theorem ScriptLine.safe (hstem : ∀ c ∈ stem, FileName.isStemChar c = true)
    (hroots : ∀ root ∈ roots, PlainRoot root) (h : ScriptLine options stem roots line) :
    '\n' ∉ line ∧ ¬ commentClose <:+: line := by
  have hquiet : ∀ c ∈ stem, Quiet c := fun c hc => .of_isStemChar (hstem c hc)
  cases h with
  | fixed hmem =>
      have hfixed : ∀ line ∈ fixedLines, ∀ c ∈ line, Quiet c := by decide +kernel
      exact safe_of_quiet (hfixed line hmem)
  | target => exact safe_of_quiet (forall_mem_framed (by decide) hquiet (by decide))
  | architecture =>
      have hwords : ∀ architecture, ∀ c ∈ architectureLine architecture, Quiet c := by
        rintro (_ | _ | _) <;> decide
      exact safe_of_quiet (hwords options.architecture)
  | output =>
      have hwords : ∀ output, ∀ c ∈ outputLine output, Quiet c := by
        rintro (_ | _) <;> decide
      exact safe_of_quiet (hwords options.output)
  | versions hpad hroot => exact versionsLine_safe hpad (hroots _ hroot)
  | call => exact safe_of_quiet (quiet_compilerCall hquiet)
  | created => exact safe_of_quiet (forall_mem_framed (by decide) hquiet (by decide))

/-! ## The whole preamble -/

theorem exists_enclosed (options : Options)
    (hstem : ∀ c ∈ stem, FileName.isStemChar c = true) (hroots : ∀ root ∈ roots, PlainRoot root) :
    ∃ body, Lint.Enclosed
      (chars options stem (Switches.ofOptions options (String.ofList stem)) roots)
      body [] [] ['\n'] := by
  have hchars : chars options stem (Switches.ofOptions options (String.ofList stem)) roots =
      Text.unlines ((commentOpen ++ " 2>NUL".toList) ::
        scriptLines options stem (Switches.ofOptions options (String.ofList stem)) roots) ++
      ([] ++ commentClose ++ []) ++ ['\n'] := by
    simp only [chars, allLines, openLine, Text.unlines_append, Text.unlines_cons,
      Text.unlines_nil, List.append_assoc, List.cons_append, List.nil_append, List.append_nil]
  have hopened : '*' ∉ " 2>NUL".toList := by decide
  exact Lint.exists_enclosed_of_unlines hchars
    (Text.not_infix_of_not_mem (by decide) hopened)
    (fun line h => ((ScriptLine.of_mem h).safe hstem hroots).2) (by simp) (by simp) (.inr rfl)

theorem lines_chars (options : Options)
    (hstem : ∀ c ∈ stem, FileName.isStemChar c = true) (hroots : ∀ root ∈ roots, PlainRoot root) :
    Text.lines (chars options stem (Switches.ofOptions options (String.ofList stem)) roots) =
      openLine :: (scriptLines options stem (Switches.ofOptions options (String.ofList stem)) roots ++
        [commentClose]) := by
  apply Text.lines_unlines
  intro line h
  simp only [allLines, List.mem_cons, List.mem_append, List.not_mem_nil, or_false] at h
  rcases h with rfl | h | rfl
  · decide
  · exact ((ScriptLine.of_mem h).safe hstem hroots).1
  · decide

end Preamble

end SelfBuild
