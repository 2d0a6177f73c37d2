import SelfBuild.CommandLine.Run
import SelfBuild.Proofs.Preamble.Findings
import SelfBuild.Proofs.Text.Lines

/-!
# Artifacts that are read again

There is no carriage return in a preamble.  So where an artifact is read from a file, with a line feed for
every line end, it is the artifact of the source with its line ends turned, and has no finding.
-/

namespace SelfBuild

namespace Preamble

variable {options : Options} {stem line : List Char} {roots : List (List Char)}

theorem ScriptLine.return_not_mem (hstem : '\r' ∉ stem) (hroots : ∀ root ∈ roots, '\r' ∉ root)
    (h : ScriptLine options stem roots line) : '\r' ∉ line := by
  have hne {s : List Char} (hs : '\r' ∉ s) : ∀ c ∈ s, c ≠ '\r' := fun c hc e => hs (e ▸ hc)
  suffices hline : ∀ c ∈ line, c ≠ '\r' from fun hmem => hline _ hmem rfl
  cases h with
  | fixed hmem =>
      have hfixed : ∀ line ∈ fixedLines, ∀ c ∈ line, c ≠ '\r' := by decide +kernel
      exact hfixed line hmem
  | target => exact forall_mem_framed (by decide) (hne hstem) (by decide)
  | architecture =>
      have hwords : ∀ architecture, ∀ c ∈ architectureLine architecture, c ≠ '\r' := by
        rintro (_ | _ | _) <;> decide
      exact hwords options.architecture
  | output =>
      have hwords : ∀ output, ∀ c ∈ outputLine output, c ≠ '\r' := by
        rintro (_ | _) <;> decide
      exact hwords options.output
  | @versions pad root hpad hroot =>
      have hheads : ∀ pad ∈ indents, ∀ c ∈ pad ++ "for /d %%i in (".toList, c ≠ '\r' := by decide
      exact forall_mem_framed (hheads pad hpad) (hne (hroots root hroot)) (by decide)
  | call => exact forall_mem_compilerCall (by decide +kernel) (hne hstem)
  | created => exact forall_mem_framed (by decide) (hne hstem) (by decide)

theorem return_not_mem_chars (options : Options) (hstem : '\r' ∉ stem)
    (hroots : ∀ root ∈ roots, '\r' ∉ root) :
    '\r' ∉ chars options stem (Switches.ofOptions options (String.ofList stem)) roots := by
  intro hmem
  obtain ⟨line, hline, hc⟩ := List.mem_flatMap.1 hmem
  have hreturn : '\r' ∈ line := by
    rcases List.mem_append.1 hc with hc | hc
    · exact hc
    · exact absurd hc (by decide)
  simp only [allLines, List.mem_cons, List.mem_append, List.not_mem_nil, or_false] at hline
  rcases hline with rfl | hline | rfl
  · exact absurd hreturn (by decide)
  · exact (ScriptLine.of_mem hline).return_not_mem hstem hroots hreturn
  · exact absurd hreturn (by decide)

end Preamble

namespace Artifact

variable {disk : Disk} {path : Path}

theorem return_not_mem_preambleChars (project : Project) (options : Options) :
    '\r' ∉ preambleChars project options := by
  have hstem : '\r' ∉ (FileName.stem project).toList := fun hmem =>
    absurd (isStemChar_of_mem_stem project _ hmem) (by decide)
  have hroots : ∀ root ∈ Preamble.standardRoots, '\r' ∉ root := by decide
  have h := Preamble.return_not_mem_chars options hstem hroots
  rwa [String.ofList_toList] at h

/-- Turning the line ends of an artifact turns those of its source. -/
theorem normalizeEnds_compose (project : Project) (options : Options) (source : String) :
    String.ofList (Text.normalizeEnds (compose project options source).toList) =
      compose project options (String.ofList (Text.normalizeEnds source.toList)) := by
  rw [toList_compose, Text.normalizeEnds_append (return_not_mem_preambleChars project options),
    compose, chars, String.toList_ofList]

/-- Where an artifact can be read, a check finds nothing. -/
theorem check_of_readBytes {host : CommandLine.Host} {path : String} {project : Project}
    {options : Options} {source : String}
    (h : host.disk.readBytes (Path.ofString path) =
      .ok (Text.Utf8.encode (compose project options source))) :
    (CommandLine.check path host).exit = .code 0 := by
  have hread : host.disk.readText (Path.ofString path) =
      .ok (compose project options (String.ofList (Text.normalizeEnds source.toList))) := by
    simp only [Disk.readText, h, Text.Utf8.decode_encode, normalizeEnds_compose]
  simp only [CommandLine.check, hread, artifact?_compose, CommandLine.Host.begin]

end Artifact

end SelfBuild
