import SelfBuild.Proofs.Artifact.Inputs
import SelfBuild.Proofs.FileName
import SelfBuild.Proofs.Text.Counting

/-!
# The call of the compiler

A preamble has one line that calls the compiler, and what that line says depends on the stem and the options
alone.  No other line has a switch in it, and a stem has no slash and no quote, so no name can forge a switch,
split one or end the quotes that it stands in.
-/

namespace SelfBuild

namespace Preamble

variable {options : Options} {stem line : List Char} {sign : String}

/-- How a call of the compiler starts. -/
def caller : List Char :=
  "\"%CSC%\"".toList

/-- What is looked for in a preamble to tell the options.  The only slash of a sign is its first character, so
no two places where it starts overlap. -/
def signs : List String :=
  ["/optimize+", "/optimize-", "/unsafe", "/reference:", "/target:winexe"]

/-- The switches behind the name of the program. -/
def spelledSwitches (options : Options) : List String :=
  [ match options.output with
      | .console => "/target:exe"
      | .windowed => "/target:winexe"
  , match options.architecture with
      | .anyCpu => "/platform:ANYCPU"
      | .x64 => "/platform:X64"
      | .x86 => "/platform:X86"
  , if options.optimize then "/optimize+" else "/optimize-" ] ++
  (if options.allowUnsafe then ["/unsafe"] else []) ++
  match options.output with
    | .console => []
    | .windowed => ["/reference:System.Windows.Forms.dll", "/reference:System.Drawing.dll"]

/-- The call of the compiler in full, each switch behind a space. -/
def spelledCall (options : Options) (stem : List Char) : List Char :=
  "\"%CSC%\" /nologo /out:\"".toList ++ stem ++ ".exe\"".toList ++
    ((spelledSwitches options).flatMap fun word => ' ' :: word.toList) ++ " \"%~f0\"".toList

theorem afterName_eq_spelledSwitches (options : Options) :
    Switches.afterName options = spelledSwitches options := by
  rcases options with ⟨_ | _ | _, _ | _, _ | _, _ | _⟩ <;> rfl

theorem compilerCall_eq_spelledCall (options : Options) (stem : List Char) :
    compilerCall (Switches.ofOptions options (String.ofList stem)) = spelledCall options stem := by
  have hassoc (a b c d e f g : List Char) :
      a ++ (b ++ c ++ d ++ e) ++ f ++ g = a ++ b ++ c ++ d ++ e ++ (f ++ g) := by
    simp only [List.append_assoc]
  have hstem : (String.ofList stem).toList = stem := String.toList_ofList
  unfold compilerCall
  rw [Switches.line_ofOptions, Switches.tail, afterName_eq_spelledSwitches, hstem, hassoc]
  rfl

/-! ## The other lines -/

/-- The lines in front of the call. -/
def linesBefore (options : Options) (stem : List Char) : List (List Char) :=
  openLine :: (banner options stem ++ discovery standardRoots ++ notice)

/-- The lines behind the call. -/
def linesBehind (stem : List Char) : List (List Char) :=
  report stem ++ [commentClose]

theorem allLines_eq (options : Options) (stem : List Char) (switches : Switches) :
    allLines options stem switches standardRoots =
      linesBefore options stem ++ compilerCall switches :: linesBehind stem := by
  simp only [allLines, scriptLines, linesBefore, linesBehind, List.append_assoc, List.cons_append,
    List.nil_append]

/-- A line that does not call the compiler and has no switch in it. -/
def Silent (line : List Char) : Prop :=
  ¬ caller <+: line ∧ ∀ sign ∈ signs, Text.occurrences sign.toList line = 0

instance : DecidablePred Silent := fun _ => inferInstanceAs (Decidable (_ ∧ _))

theorem Silent.of_no_slash (hhead : line.head? ≠ some '"') (hslash : '/' ∉ line) : Silent line := by
  have hsigns : ∀ sign ∈ signs, '/' ∈ sign.toList := by decide
  refine ⟨?_, fun sign hsign =>
    Text.occurrences_eq_zero (Text.not_infix_of_not_mem (hsigns sign hsign) hslash)⟩
  rintro ⟨rest, rfl⟩
  exact hhead rfl

theorem slash_not_mem_around_stem {head : List Char} (hhead : '/' ∉ head)
    (hstem : ∀ c ∈ stem, FileName.isStemChar c = true) : '/' ∉ head ++ stem ++ ".exe".toList := by
  have hplain : '/' ∉ stem := fun h => absurd (hstem _ h) (by decide)
  simp only [List.mem_append, hhead, hplain, false_or]
  decide

theorem silent_around_stem {head : List Char} (hstart : (head ++ stem ++ ".exe".toList).head? ≠ some '"')
    (hhead : '/' ∉ head) (hstem : ∀ c ∈ stem, FileName.isStemChar c = true) :
    Silent (head ++ stem ++ ".exe".toList) :=
  .of_no_slash hstart (slash_not_mem_around_stem hhead hstem)

/-- The parts of a preamble that are the same whatever the stem and the options are. -/
def fixedParts : List (List (List Char)) :=
  [title, announcement, discovery standardRoots, notice, verdict, farewell, [openLine, leaveLine, commentClose]]

theorem silent_of_mem_fixedParts {part : List (List Char)} (hpart : part ∈ fixedParts) (h : line ∈ part) :
    Silent line := by
  have hparts : ∀ part ∈ fixedParts, ∀ line ∈ part, Silent line := by decide +kernel
  exact hparts part hpart line h

theorem silent_of_mem (hstem : ∀ c ∈ stem, FileName.isStemChar c = true)
    (h : line ∈ linesBefore options stem ++ linesBehind stem) : Silent line := by
  simp only [linesBefore, linesBehind, banner, report, List.mem_append, List.mem_cons, List.not_mem_nil,
    or_false] at h
  have hfixed : ∀ part ∈ fixedParts, ∀ line ∈ part, Silent line :=
    fun _ hpart _ => silent_of_mem_fixedParts hpart
  simp only [fixedParts, List.forall_mem_cons] at hfixed
  obtain ⟨htitle, hannouncement, hdiscovery, hnotice, hverdict, hfarewell, hends, -⟩ := hfixed
  obtain ⟨hopen, hleave, hclose, -⟩ := hends
  rcases h with (rfl | ((((h | rfl | rfl | rfl) | h) | h) | h)) | ((((h | rfl) | h) | rfl) | rfl)
  · exact hopen
  · exact htitle _ h
  · exact silent_around_stem (by simp) (by decide) hstem
  · have hwords : ∀ architecture, Silent (architectureLine architecture) := by
      rintro (_ | _ | _) <;> decide +kernel
    exact hwords options.architecture
  · have hwords : ∀ output, Silent (outputLine output) := by
      rintro (_ | _) <;> decide +kernel
    exact hwords options.output
  · exact hannouncement _ h
  · exact hdiscovery _ h
  · exact hnotice _ h
  · exact hverdict _ h
  · exact silent_around_stem (by simp) (by decide) hstem
  · exact hfarewell _ h
  · exact hleave
  · exact hclose

/-! ## The call -/

/-- Of the call only the switches behind the name can show a sign: what stands in front of them is cut up by
quotes, and there is no slash in the name. -/
theorem occurrences_compilerCall (hsign : sign ∈ signs)
    (hstem : ∀ c ∈ stem, FileName.isStemChar c = true) :
    Text.occurrences sign.toList (compilerCall (Switches.ofOptions options (String.ofList stem))) =
      ((spelledSwitches options).map fun word => Text.occurrences sign.toList word.toList).sum := by
  have hplain : ∀ sign ∈ signs.map String.toList, '"' ∉ sign ∧ ' ' ∉ sign ∧ sign ≠ [] ∧ '/' ∈ sign := by
    decide
  obtain ⟨hquote, hspace, hne, hslash⟩ := hplain _ (List.mem_map_of_mem hsign)
  have htexts : ∀ sign ∈ signs, Text.occurrences sign.toList "%CSC%".toList = 0 ∧
      Text.occurrences sign.toList " /nologo /out:".toList = 0 ∧
      Text.occurrences sign.toList "%~f0".toList = 0 := by
    decide +kernel
  obtain ⟨hcompiler, hout, hself⟩ := htexts sign hsign
  have hname : Text.occurrences sign.toList (stem ++ ".exe".toList) = 0 :=
    Text.occurrences_eq_zero
      (Text.not_infix_of_not_mem hslash (slash_not_mem_around_stem List.not_mem_nil hstem))
  have hnone : Text.occurrences sign.toList [] = 0 := rfl
  have htail : Text.occurrences sign.toList (Switches.tail options ++ [' ']) =
      ((spelledSwitches options).map fun word => Text.occurrences sign.toList word.toList).sum := by
    have hswitches := Text.occurrences_append_flatMap_cons hspace hne String.toList [] (spelledSwitches options)
    rw [List.nil_append, hnone, Nat.zero_add] at hswitches
    rw [Text.occurrences_append_cons hspace hne, hnone, Nat.add_zero, Switches.tail,
      afterName_eq_spelledSwitches, hswitches]
  simp only [compilerCall_eq, Text.occurrences_cons hquote hne, Text.occurrences_append_cons hquote hne,
    hcompiler, hout, hname, htail, hself, hnone, Nat.zero_add, Nat.add_zero]

theorem occurrences_spelledSwitches (options : Options) :
    let count (sign : String) :=
      ((spelledSwitches options).map fun word => Text.occurrences sign.toList word.toList).sum
    count "/optimize+" = (if options.optimize then 1 else 0) ∧
      count "/optimize-" = (if options.optimize then 0 else 1) ∧
      count "/unsafe" = (if options.allowUnsafe then 1 else 0) ∧
      count "/reference:" = (if options.output = .windowed then 2 else 0) ∧
      count "/target:winexe" = (if options.output = .windowed then 1 else 0) := by
  rcases options with ⟨_ | _ | _, _ | _, _ | _, _ | _⟩ <;> decide +kernel

theorem occurrences_unlines_allLines (hsign : sign ∈ signs)
    (hstem : ∀ c ∈ stem, FileName.isStemChar c = true) :
    Text.occurrences sign.toList (Text.unlines
        (allLines options stem (Switches.ofOptions options (String.ofList stem)) standardRoots)) =
      ((spelledSwitches options).map fun word => Text.occurrences sign.toList word.toList).sum := by
  have hplain : ∀ sign ∈ signs, '\n' ∉ sign.toList ∧ sign.toList ≠ [] := by decide
  obtain ⟨hfeed, hne⟩ := hplain sign hsign
  have hnone : ∀ ls ⊆ linesBefore options stem ++ linesBehind stem,
      (ls.map (Text.occurrences sign.toList)).sum = 0 := by
    intro ls hls
    refine List.sum_eq_zero_iff_forall_eq_nat.2 fun n hn => ?_
    obtain ⟨line, hline, rfl⟩ := List.mem_map.1 hn
    exact (silent_of_mem hstem (hls hline)).2 sign hsign
  rw [allLines_eq, Text.occurrences_unlines hfeed hne, List.map_append,
    List.sum_append, List.map_cons, List.sum_cons, hnone _ (List.subset_append_left _ _),
    hnone _ (List.subset_append_right _ _), occurrences_compilerCall hsign hstem, Nat.zero_add, Nat.add_zero]

theorem filter_caller_allLines (hstem : ∀ c ∈ stem, FileName.isStemChar c = true) :
    (allLines options stem (Switches.ofOptions options (String.ofList stem)) standardRoots).filter
        (caller.isPrefixOf ·) = [spelledCall options stem] := by
  have hnone : ∀ ls ⊆ linesBefore options stem ++ linesBehind stem,
      ls.filter (caller.isPrefixOf ·) = [] := by
    intro ls hls
    rw [List.filter_eq_nil_iff]
    intro line hline
    rw [List.isPrefixOf_iff_prefix]
    exact (silent_of_mem hstem (hls hline)).1
  have hcall : caller.isPrefixOf (spelledCall options stem) = true := rfl
  rw [allLines_eq, compilerCall_eq_spelledCall, List.filter_append, hnone _ (List.subset_append_left _ _),
    List.filter_cons_of_pos hcall, hnone _ (List.subset_append_right _ _), List.nil_append]

end Preamble

namespace FileName

/-- Whether a character is an ASCII letter or digit, an underscore or a hyphen. -/
def Kept (c : Char) : Prop :=
  ('A' ≤ c ∧ c ≤ 'Z') ∨ ('a' ≤ c ∧ c ≤ 'z') ∨ ('0' ≤ c ∧ c ≤ '9') ∨ c = '_' ∨ c = '-'

instance : DecidablePred Kept := fun _ => inferInstanceAs (Decidable (_ ∨ _))

theorem isStemChar_eq (c : Char) : isStemChar c = decide (Kept c) := by
  rw [Bool.eq_iff_iff, decide_eq_true_iff]
  simp only [isStemChar, Kept, Bool.or_eq_true, isAlphanum_iff, decide_eq_true_eq, or_assoc]

end FileName

namespace Artifact

open Preamble

theorem toList_stem (project : Project) :
    let kept := project.nameChars.filter fun c => FileName.Kept c
    (FileName.stem project).toList = if kept = [] then "App".toList else kept := by
  have hkept : FileName.sanitize project.nameChars = project.nameChars.filter fun c => FileName.Kept c :=
    List.filter_congr fun c _ => FileName.isStemChar_eq c
  intro kept
  rw [FileName.stem, String.toList_ofList, FileName.stemOf, hkept]
  rfl

/-- Whatever the name of a project is, the preamble calls the compiler once, with the switches of the options,
and nothing else in it looks like one of these switches. -/
theorem compose_calls_compiler_once (project : Project) (options : Options) (source : String) :
    let kept := project.nameChars.filter fun c => FileName.Kept c
    let stem := if kept = [] then "App".toList else kept
    ∃ preamble, split? (compose project options source) = some (preamble, source) ∧
      (Text.lines preamble.toList).filter ("\"%CSC%\"".toList.isPrefixOf ·) = [spelledCall options stem] ∧
      let count (sign : String) := Text.occurrences sign.toList preamble.toList
      count "/optimize+" = (if options.optimize then 1 else 0) ∧
        count "/optimize-" = (if options.optimize then 0 else 1) ∧
        count "/unsafe" = (if options.allowUnsafe then 1 else 0) ∧
        count "/reference:" = (if options.output = .windowed then 2 else 0) ∧
        count "/target:winexe" = (if options.output = .windowed then 1 else 0) := by
  intro kept stem
  have hstem : (FileName.stem project).toList = stem := toList_stem project
  have hplain := isStemChar_of_mem_stem project
  have hchars : preambleChars project options = Text.unlines
      (allLines options stem (Switches.ofOptions options (String.ofList stem)) standardRoots) := by
    rw [← hstem, String.ofList_toList]
    rfl
  have hlines : Text.lines (preambleChars project options) =
      allLines options stem (Switches.ofOptions options (String.ofList stem)) standardRoots := by
    rw [← hstem]
    exact lines_preambleChars project options
  rw [hstem] at hplain
  have htext : (String.ofList (preambleChars project options)).toList = preambleChars project options :=
    String.toList_ofList
  obtain ⟨_, henclosed⟩ := exists_enclosed_preambleChars project options
  refine ⟨String.ofList (preambleChars project options), ?_, ?_, ?_⟩
  · rw [split?, toList_compose, splitChars?_enclosed_append henclosed, Option.map_some]
    simp only [String.ofList_toList]
  · rw [htext, hlines]
    exact filter_caller_allLines hplain
  · intro count
    have hcount (sign : String) (hsign : sign ∈ signs) : count sign =
        ((spelledSwitches options).map fun word => Text.occurrences sign.toList word.toList).sum := by
      have hall := @occurrences_unlines_allLines options stem sign hsign hplain
      rwa [← hchars, ← htext] at hall
    rw [hcount "/optimize+" (by decide), hcount "/optimize-" (by decide), hcount "/unsafe" (by decide),
      hcount "/reference:" (by decide), hcount "/target:winexe" (by decide)]
    exact occurrences_spelledSwitches options

end Artifact

end SelfBuild
