import SelfBuild.Proofs.Artifact
import SelfBuild.Proofs.Preamble.Rows
import SelfBuild.Wizard.Answer

/-!
# A preamble has no findings

The lines of a preamble are put together from groups that leave the depth of blocks as they found
it, however many roots there are.  Together with what single lines jump to and with the last line,
which leaves, nothing is left for the linter to say.
-/

namespace SelfBuild

namespace Preamble

open Lint

variable {options : Options} {stem line : List Char} {roots xs ys : List (List Char)}
  {depth : Nat}

/-! ## Groups of lines -/

/-- Lines after which as many blocks are open as before. -/
def Balanced (depth : Nat) (ls : List (List Char)) : Prop :=
  depthAfter depth (ls.map Row.ofLine) = some depth

instance (depth : Nat) (ls : List (List Char)) : Decidable (Balanced depth ls) :=
  inferInstanceAs (Decidable (_ = _))

theorem Balanced.append (hx : Balanced depth xs) (hy : Balanced depth ys) :
    Balanced depth (xs ++ ys) := by
  unfold Balanced at *
  rw [List.map_append, depthAfter_append, hx]
  exact hy

theorem Balanced.flatMap {lines : List Char → List (List Char)}
    (h : ∀ root ∈ roots, Balanced depth (lines root)) : Balanced depth (roots.flatMap lines) := by
  induction roots with
  | nil => rfl
  | cons root roots ih =>
      rw [List.flatMap_cons]
      exact (h root List.mem_cons_self).append (ih fun later hlater =>
        h later (List.mem_cons_of_mem root hlater))

/-- A group between a line that opens a block and one that closes it. -/
theorem Balanced.block {first last : List Char}
    (hfirst : advance depth (Row.ofLine first) = some (depth + 1))
    (hinner : Balanced (depth + 1) xs)
    (hlast : advance (depth + 1) (Row.ofLine last) = some depth) :
    Balanced depth (first :: (xs ++ [last])) := by
  unfold Balanced at *
  rw [List.map_cons, depthAfter_cons, hfirst, List.map_append, Option.bind_some,
    depthAfter_append, hinner, Option.bind_some, List.map_singleton, depthAfter_cons, hlast]
  rfl

theorem Level.balanced (h : Level (Row.ofLine line)) : Balanced 0 [line] := by
  unfold Balanced
  rw [List.map_singleton, depthAfter_cons, h.1]
  rfl

theorem balanced_searchLoop {pad root : List Char} (hpad : pad ∈ indents) (hroot : PlainRoot root)
    (hdepth : depth ≤ 1) : Balanced depth (searchLoop pad root) := by
  have hrest : ∀ pad ∈ indents, ∀ depth ≤ 1,
      depthAfter (depth + 1) ((loopRest pad).map Row.ofLine) = some depth := by
    decide +kernel
  unfold Balanced
  rw [searchLoop, List.map_cons, depthAfter_cons, ofLine_versionsLine hpad,
    advance_versionsLine hroot]
  exact hrest pad hpad depth hdepth

theorem balanced_laterRoot {root : List Char} (hroot : PlainRoot root) :
    Balanced 0 (laterRoot root) :=
  .block (by decide +kernel) (balanced_searchLoop (by simp [indents]) hroot (Nat.le_refl 1))
    (by decide +kernel)

/-- The parts in which no name, option or root stands are balanced by themselves. -/
theorem balanced_fixed {part : List (List Char)}
    (h : part ∈ [title, announcement, [forgetLine], notice, verdict, farewell, [leaveLine]]) :
    Balanced 0 part := by
  have hall : ∀ part ∈ [title, announcement, [forgetLine], notice, verdict, farewell, [leaveLine]],
      Balanced 0 part := by
    decide +kernel
  exact hall part h

theorem balanced_discovery (hroots : ∀ root ∈ roots, PlainRoot root) :
    Balanced 0 (discovery roots) := by
  have hforget : Balanced 0 [forgetLine] := balanced_fixed (by simp)
  cases roots with
  | nil => exact hforget
  | cons first later =>
      have hfirst : Balanced 0 (searchLoop [] first) :=
        balanced_searchLoop (by simp [indents]) (hroots first List.mem_cons_self) (Nat.zero_le 1)
      have hlater : Balanced 0 (later.flatMap laterRoot) :=
        .flatMap fun root h => balanced_laterRoot (hroots root (List.mem_cons_of_mem first h))
      exact hforget.append (hfirst.append hlater)

theorem balanced_banner (hstem : ∀ c ∈ stem, FileName.isStemChar c = true) :
    Balanced 0 (banner options stem) := by
  have htitle : Balanced 0 title := balanced_fixed (by simp)
  have hannouncement : Balanced 0 announcement := balanced_fixed (by simp)
  have htarget := (level_targetLine hstem).balanced
  have harchitecture := (level_architectureLine options.architecture).balanced
  have houtput := (level_outputLine options.output).balanced
  exact (htitle.append (htarget.append (harchitecture.append houtput))).append hannouncement

theorem balanced_report (hstem : ∀ c ∈ stem, FileName.isStemChar c = true) :
    Balanced 0 (report stem) := by
  have hverdict : Balanced 0 verdict := balanced_fixed (by simp)
  have hfarewell : Balanced 0 farewell := balanced_fixed (by simp)
  have hleave : Balanced 0 [leaveLine] := balanced_fixed (by simp)
  exact ((hverdict.append (level_createdLine hstem).balanced).append hfarewell).append hleave

theorem balanced_scriptLines (options : Options)
    (hstem : ∀ c ∈ stem, FileName.isStemChar c = true) (hroots : ∀ root ∈ roots, PlainRoot root) :
    Balanced 0
      (scriptLines options stem (Switches.ofOptions options (String.ofList stem)) roots) := by
  have hnotice : Balanced 0 notice := balanced_fixed (by simp)
  have hcall : Balanced 0 [compilerCall (Switches.ofOptions options (String.ofList stem))] :=
    (level_compilerCall hstem).balanced
  exact ((((balanced_banner hstem).append (balanced_discovery hroots)).append hnotice).append
    hcall).append (balanced_report hstem)

/-! ## Jumps and the end -/

theorem ScriptLine.jumps_eof (hstem : ∀ c ∈ stem, FileName.isStemChar c = true)
    (hroots : ∀ root ∈ roots, PlainRoot root) (h : ScriptLine options stem roots line) :
    ∀ target ∈ (Row.ofLine line).jumps, target = "eof".toList := by
  cases h with
  | fixed hmem =>
      have hfixed : ∀ line ∈ fixedLines, ∀ target ∈ (Row.ofLine line).jumps,
          target = "eof".toList := by
        decide +kernel
      exact hfixed line hmem
  | target => exact (level_targetLine hstem).2
  | architecture => exact (level_architectureLine options.architecture).2
  | output => exact (level_outputLine options.output).2
  | versions hpad hroot =>
      rw [ofLine_versionsLine hpad, jumps_command, bare_versionsLine (hroots _ hroot),
        jumps_versionsLine (hroots _ hroot)]
      exact List.forall_mem_nil _
  | call => exact (level_compilerCall hstem).2
  | created => exact (level_createdLine hstem).2

theorem batch_chars_eq_nil (options : Options)
    (hstem : ∀ c ∈ stem, FileName.isStemChar c = true) (hroots : ∀ root ∈ roots, PlainRoot root) :
    batch (chars options stem (Switches.ofOptions options (String.ofList stem)) roots) = [] := by
  have hlines := lines_chars options hstem hroots
  have hrows := rows_map_fst hlines
  rw [batch_eq_nil_iff, blocks_eq_iff_depthAfter, hrows, unknownJumps_eq_nil_iff,
    lastCommand_eq_nil_iff]
  refine ⟨balanced_scriptLines options hstem hroots, ?_, ?_⟩
  · intro row hrow target htarget
    have hmem : row.1 ∈ (rows (chars options stem
        (Switches.ofOptions options (String.ofList stem)) roots)).map Prod.fst :=
      List.mem_map_of_mem hrow
    rw [hrows] at hmem
    obtain ⟨line, hline, heq⟩ := List.mem_map.1 hmem
    rw [← heq] at htarget
    rw [(ScriptLine.of_mem hline).jumps_eof hstem hroots target htarget]
    exact List.mem_cons_self
  · have hleave : Row.ofLine leaveLine = .command leaveLine := by decide +kernel
    rw [scriptLines, report, ← List.append_assoc] at hlines
    obtain ⟨rs, number, hlast⟩ := exists_rows_eq_concat hlines
    refine ⟨leaveLine, number, ?_, by decide +kernel⟩
    rw [hlast, hleave]
    simp [commands]

theorem preamble_chars_eq_nil (options : Options)
    (hstem : ∀ c ∈ stem, FileName.isStemChar c = true) (hroots : ∀ root ∈ roots, PlainRoot root) :
    Lint.preamble
      (chars options stem (Switches.ofOptions options (String.ofList stem)) roots) = [] := by
  obtain ⟨body, henclosed⟩ := exists_enclosed options hstem hroots
  rw [Lint.preamble, henclosed.comment_eq_nil, batch_chars_eq_nil options hstem hroots,
    List.append_nil]

end Preamble

namespace Artifact

open Preamble

theorem preamble_text_eq_nil (options : Options) (project : Project) {roots : List String}
    (hroots : ∀ root ∈ roots, PlainRoot root.toList) :
    Lint.preamble (Preamble.text options (FileName.stem project)
      (Switches.ofOptions options (FileName.stem project)) roots).toList = [] := by
  have hplain : ∀ root ∈ roots.map String.toList, PlainRoot root :=
    List.forall_mem_map.2 hroots
  have hclean := preamble_chars_eq_nil options (isStemChar_of_mem_stem project) hplain
  rw [String.ofList_toList] at hclean
  rw [Preamble.text, String.toList_ofList]
  exact hclean

theorem artifact?_compose (project : Project) (options : Options) (source : String) :
    Lint.artifact? (compose project options source).toList = some [] := by
  obtain ⟨body, henclosed⟩ := exists_enclosed_preambleChars project options
  have hclean := preamble_chars_eq_nil options (isStemChar_of_mem_stem project)
    plainRoot_of_mem_standardRoots
  rw [String.ofList_toList] at hclean
  rw [Lint.artifact?, toList_compose, splitChars?_enclosed_append henclosed]
  exact congrArg some hclean

/-- So a build never answers that its own preamble is unsound. -/
theorem build_ne_unsound (form : Wizard.Form) (host : Wizard.Host) (page : Wizard.Page) :
    (Wizard.build form host).result ≠ .ok (.page 500 page) := by
  unfold Wizard.build
  cases form.options.coerce host.limits.shown with
  | error fault => cases fault <;> simp [Wizard.rejected, Wizard.Answer.ofPage]
  | ok options =>
      dsimp only
      rw [Build.artifact, artifact?_compose, Option.getD_some]
      by_cases hpreview : form.value "action" "" = "preview" <;>
        simp [hpreview, Wizard.Answer.ofPage]

/-- Whatever the name and the options are, a generated preamble has no finding as long as the roots
can stand in a script. -/
theorem no_findings :
    (∀ (options : Options) (project : Project) (roots : List String),
      (∀ root ∈ roots, PlainRoot root.toList) →
        Lint.preamble (Preamble.text options (FileName.stem project)
          (Switches.ofOptions options (FileName.stem project)) roots).toList = []) ∧
      (∀ (project : Project) (options : Options) (source : String),
        Lint.artifact? (compose project options source).toList = some []) ∧
      ∀ (form : Wizard.Form) (host : Wizard.Host) (page : Wizard.Page),
        (Wizard.build form host).result ≠ .ok (.page 500 page) :=
  ⟨fun options project _ hroots => preamble_text_eq_nil options project hroots,
    artifact?_compose, build_ne_unsound⟩

theorem no_findings_two_roots :
    (∀ root ∈ ["D:\\tools\\go to", "*"], PlainRoot root.toList) ∧
      Lint.preamble (Preamble.text {} (FileName.stem {})
        (Switches.ofOptions {} (FileName.stem {})) ["D:\\tools\\go to", "*"]).toList = [] := by
  have hroots : ∀ root ∈ ["D:\\tools\\go to", "*"], PlainRoot root.toList := by
    intro root h
    simp only [List.mem_cons, List.not_mem_nil, or_false] at h
    rcases h with rfl | rfl
    · exact ⟨by decide, by decide +kernel, by decide +kernel⟩
    · exact ⟨by decide, by decide +kernel, by decide +kernel⟩
  exact ⟨hroots, no_findings.1 {} {} _ hroots⟩

end Artifact

end SelfBuild
