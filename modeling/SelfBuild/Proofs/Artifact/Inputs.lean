import SelfBuild.Build
import SelfBuild.Proofs.Artifact

/-!
# What an artifact depends on

The stem, the options and the source can be read back from an artifact, so two artifacts are the same only
if they were made of the same.  Everything else that is known about a project leaves no trace in it: the
other texts of its description, the log, and the characters of its name that a stem does not keep.
-/

namespace SelfBuild

namespace Switches

/-- The first of the two options is read off a sign that no other word has. -/
theorem plus_mem_tail_iff (options : Options) : '+' ∈ tail options ↔ options.optimize = true := by
  have hword (a : Architecture) : '+' ∉ a.word.toList := by cases a <;> decide
  obtain ⟨architecture, output, optimize, allowUnsafe⟩ := options
  cases output <;> cases optimize <;> cases allowUnsafe <;>
    simp [tail, afterName, ofOptions, arguments, windowLibraries, hword]

/-- The second one is read off a letter. -/
theorem u_mem_tail_iff (options : Options) : 'u' ∈ tail options ↔ options.allowUnsafe = true := by
  have hword (a : Architecture) : 'u' ∉ a.word.toList := by cases a <;> decide
  obtain ⟨architecture, output, optimize, allowUnsafe⟩ := options
  cases output <;> cases optimize <;> cases allowUnsafe <;>
    simp [tail, afterName, ofOptions, arguments, windowLibraries, hword]

end Switches

namespace Preamble

variable {options choices : Options} {stem other : List Char} {roots : List (List Char)}

theorem architectureLine_injective : Function.Injective architectureLine := by
  intro a b h
  have hword := List.append_cancel_left h
  cases a <;> cases b <;> first | rfl | exact absurd hword (by decide)

theorem outputLine_injective : Function.Injective outputLine := by
  intro a b h
  have hword := List.append_cancel_left h
  cases a <;> cases b <;> first | rfl | exact absurd hword (by decide)

theorem targetLine_injective : Function.Injective targetLine := by
  intro s t h
  exact List.append_cancel_left (List.append_cancel_right h)

/-- With the name of the program out of the way, a call of the compiler shows the last two options. -/
theorem flags_eq_of_compilerCall_eq
    (h : compilerCall (Switches.ofOptions options (String.ofList stem)) =
      compilerCall (Switches.ofOptions choices (String.ofList stem))) :
    options.optimize = choices.optimize ∧ options.allowUnsafe = choices.allowUnsafe := by
  have hline := List.append_cancel_left (List.append_cancel_right (List.append_cancel_right h))
  rw [Switches.line_ofOptions, Switches.line_ofOptions] at hline
  have htail : Switches.tail options = Switches.tail choices := List.append_cancel_left hline
  have hplus := Switches.plus_mem_tail_iff options
  have hu := Switches.u_mem_tail_iff options
  rw [htail, Switches.plus_mem_tail_iff] at hplus
  rw [htail, Switches.u_mem_tail_iff] at hu
  exact ⟨Bool.eq_iff_iff.2 hplus.symm, Bool.eq_iff_iff.2 hu.symm⟩

/-- The lines of a script show the stem and all options, each in its place. -/
theorem scriptLines_injective
    (h : scriptLines options stem (Switches.ofOptions options (String.ofList stem)) roots =
      scriptLines choices other (Switches.ofOptions choices (String.ofList other)) roots) :
    stem = other ∧ options = choices := by
  simp only [scriptLines, List.append_assoc] at h
  obtain ⟨hbanner, hrest⟩ := List.append_inj h rfl
  have hshown := List.append_cancel_left (List.append_cancel_right hbanner)
  simp only [List.cons.injEq, and_true] at hshown
  obtain ⟨htarget, harchitecture, houtput⟩ := hshown
  obtain rfl := targetLine_injective htarget
  have hcalls := List.append_cancel_left (List.append_cancel_left hrest)
  have hcall := (List.cons.inj hcalls).1
  obtain ⟨hoptimize, hallow⟩ := flags_eq_of_compilerCall_eq hcall
  cases options
  cases choices
  simp only [Options.mk.injEq, true_and]
  exact ⟨architectureLine_injective harchitecture, outputLine_injective houtput, hoptimize,
    hallow⟩

end Preamble

namespace Artifact

variable {project other : Project} {options choices : Options}

theorem lines_preambleChars (project : Project) (options : Options) :
    Text.lines (preambleChars project options) =
      Preamble.openLine ::
        (Preamble.scriptLines options (FileName.stem project).toList
            (Switches.ofOptions options (String.ofList (FileName.stem project).toList))
            Preamble.standardRoots ++ [Preamble.commentClose]) := by
  have h := Preamble.lines_chars options (isStemChar_of_mem_stem project)
    plainRoot_of_mem_standardRoots
  rwa [String.ofList_toList] at h ⊢

theorem preambleChars_eq_iff :
    preambleChars project options = preambleChars other choices ↔
      FileName.stem project = FileName.stem other ∧ options = choices := by
  constructor
  · intro h
    have hlines := congrArg Text.lines h
    rw [lines_preambleChars, lines_preambleChars] at hlines
    obtain ⟨hstem, hoptions⟩ := Preamble.scriptLines_injective
      (List.append_cancel_right (List.cons.inj hlines).2)
    exact ⟨String.toList_inj.1 hstem, hoptions⟩
  · rintro ⟨hstem, rfl⟩
    simp only [preambleChars, hstem]

/-- A stem keeps of a name what sanitizing keeps of it. -/
theorem stem_of_sanitize (h : FileName.sanitize project.nameChars = FileName.sanitize other.nameChars) :
    FileName.stem project = FileName.stem other := by
  simp only [FileName.stem, FileName.stemOf, h]

theorem sanitize_sanitize (s : List Char) :
    FileName.sanitize (FileName.sanitize s) = FileName.sanitize s := by
  simp [FileName.sanitize]

theorem eq_of_compose_eq {source text : String}
    (h : compose project options source = compose other choices text) :
    preambleChars project options = preambleChars other choices ∧ source = text := by
  obtain ⟨_, henclosed⟩ := exists_enclosed_preambleChars project options
  obtain ⟨_, henclosed'⟩ := exists_enclosed_preambleChars other choices
  have hsplit := congrArg (fun artifact => splitChars? artifact.toList) h
  simp only [toList_compose, splitChars?_enclosed_append henclosed,
    splitChars?_enclosed_append henclosed', Option.some.injEq, Prod.mk.injEq] at hsplit
  exact ⟨hsplit.1, String.toList_inj.1 hsplit.2⟩

/-- An artifact carries its stem, its options and its source, and nothing else: a project of which only
the characters kept of its name are left, with any other texts and any log, has the same artifact. -/
theorem compose_eq_iff (project other : Project) (options choices : Options) (source text : String) :
    (compose project options source = compose other choices text ↔
      FileName.stem project = FileName.stem other ∧ options = choices ∧ source = text) ∧
    ∀ version author copyright description log,
      let kept : Project :=
        { name := some (String.ofList (FileName.sanitize project.nameChars))
          version := version
          author := author
          copyright := copyright
          description := description }
      Build.artifact ⟨kept, options, source, log⟩ = compose project options source := by
  refine ⟨⟨fun h => ?_, ?_⟩, fun version author copyright description log => ?_⟩
  · obtain ⟨hpreamble, hsource⟩ := eq_of_compose_eq h
    obtain ⟨hstem, hoptions⟩ := preambleChars_eq_iff.1 hpreamble
    exact ⟨hstem, hoptions, hsource⟩
  · rintro ⟨hstem, hoptions, rfl⟩
    simp only [compose, chars, preambleChars_eq_iff.2 ⟨hstem, hoptions⟩]
  · intro kept
    have hname : FileName.sanitize kept.nameChars = FileName.sanitize project.nameChars := by
      simp only [kept, Project.nameChars, Option.getD_some, String.toList_ofList, sanitize_sanitize]
    have hpreamble : preambleChars kept options = preambleChars project options :=
      preambleChars_eq_iff.2 ⟨stem_of_sanitize hname, rfl⟩
    simp only [Build.artifact, compose, chars, hpreamble]

end Artifact

end SelfBuild
