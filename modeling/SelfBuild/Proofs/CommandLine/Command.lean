import SelfBuild.Proofs.CommandLine.Arguments

/-!
# Commands that are understood

The name of a command at the front settles which command is meant, whatever comes after it.  The
options of a build can be spelled and ordered at will: the build that is asked for depends only on the
texts that they are given.
-/

namespace SelfBuild

namespace CommandLine

/-! ## The command's name -/

theorem toList_fst_atSign (argument : String) :
    (atSign argument).1.toList = argument.toList.takeWhile (· ≠ '=') := by
  unfold atSign
  rw [List.span_eq_takeWhile_dropWhile]
  cases hrest : argument.toList.dropWhile (· ≠ '=') with
  | nil =>
      have hall := List.takeWhile_append_dropWhile (p := (· ≠ '=')) (l := argument.toList)
      rw [hrest, List.append_nil] at hall
      exact hall.symm
  | cons c text => simp

/-- The program's own options are few enough that no argument could be two of them. -/
theorem length_readings_topGrammar (argument : String) :
    (topGrammar.readings argument).length ≤ 1 := by
  have hnames : topGrammar.names = [(helpOption, "-h"), (helpOption, "--help")] := rfl
  unfold Grammar.readings
  rw [hnames]
  split
  · rename_i rest hargument
    have hstart : (atSign argument).1.toList.isPrefixOf ['-', 'h'] = false := by
      rw [toList_fst_atSign, hargument]
      rfl
    have hshort : "-h".toList = ['-', 'h'] := rfl
    cases hat : atSign argument with
    | mk start text? =>
        rw [hat] at hstart
        dsimp only at hstart ⊢
        rw [List.filterMap_cons, hshort, hstart]
        exact List.length_filterMap_le _ [(helpOption, "--help")]
  · rename_i first second rest _ _
    have hlong : "--help".toList ≠ [first, second] := by
      have hword : "--help".toList = ['-', '-', 'h', 'e', 'l', 'p'] := rfl
      rw [hword]
      nofun
    simp only [List.filterMap_cons, List.filterMap_nil, hlong, if_false]
    split <;> simp
  · exact Nat.zero_le 1

theorem exists_classify_topGrammar (argument : String) :
    ∃ mark, topGrammar.classify argument = .ok mark := by
  have hlength := length_readings_topGrammar argument
  unfold Grammar.classify
  split
  · exact ⟨_, rfl⟩
  · split
    · exact ⟨_, rfl⟩
    · split
      · exact ⟨_, rfl⟩
      · dsimp only
        split
        · exact ⟨_, rfl⟩
        · cases hreadings : topGrammar.readings argument with
          | nil =>
              dsimp only
              split
              · exact ⟨_, rfl⟩
              · exact ⟨_, rfl⟩
          | cons spelled more =>
              rw [hreadings, List.length_cons] at hlength
              obtain rfl : more = [] := List.eq_nil_of_length_eq_zero (by omega)
              exact ⟨_, rfl⟩

theorem exists_classifyAll_topGrammar (arguments : List String) :
    ∃ marks, topGrammar.classifyAll arguments = .ok marks ∧ marks.map Prod.fst = arguments := by
  induction arguments with
  | nil => exact ⟨[], rfl, rfl⟩
  | cons argument rest ih =>
      by_cases hdashes : argument = "--"
      · refine ⟨(argument, .dashes) :: rest.map fun other => (other, .plain), ?_, ?_⟩
        · simp [Grammar.classifyAll, hdashes]
        · simp [Function.comp_def]
      · obtain ⟨mark, hmark⟩ := exists_classify_topGrammar argument
        obtain ⟨marks, hmarks, hrest⟩ := ih
        exact ⟨_, classifyAll_cons hdashes hmark hmarks, by simp [hrest]⟩

/-- A command's name at the front leaves all other arguments to that command. -/
theorem ofArguments_word {name : CommandName} {own : List String} {reading : Reading}
    (hread : name.grammar.read own = .ok reading) (hextras : reading.extras = []) :
    Command.ofArguments (name.word :: own) = .ok (name.command reading) := by
  obtain ⟨marks, hmarks, hown⟩ := exists_classifyAll_topGrammar own
  have hword : name.word.toList.head? ≠ some '-' := by cases name <;> decide
  have hdashes : name.word ≠ "--" := by cases name <;> decide
  have hfound : CommandName.all.find? (fun other => other.word = name.word) = some name := by
    cases name <;> rfl
  unfold Command.ofArguments
  rw [classifyAll_cons hdashes (classify_plain hword) hmarks]
  simp only [findCommand, hfound, hown, hread, hextras, List.append_nil]

/-! ## The options of a build -/

theorem regular_grammar_build : CommandName.build.grammar.Regular :=
  ⟨by decide, by decide, by decide, by decide⟩

/-- A build is asked for by names and texts, however they are spelled. -/
theorem ofArguments_build {row : List Given}
    (hrow : ∀ given ∈ row, CommandName.build.grammar.Accepts given) :
    Command.ofArguments ("build" :: row.flatMap Given.arguments) =
      .ok (CommandName.build.command { given := (row.map Given.pair).reverse }) := by
  have hread := regular_grammar_build.read_row rfl hrow
  exact ofArguments_word hread rfl

/-! ## The options of a draft -/

theorem regular_grammar_convert : CommandName.convert.grammar.Regular :=
  ⟨by decide, by decide, by decide, by decide⟩

/-- A draft is asked for by a prompt with names and texts behind it. -/
theorem ofArguments_convert {prompt : String} (row : List Given)
    (hprompt : prompt.toList.head? ≠ some '-')
    (hrow : ∀ given ∈ row, CommandName.convert.grammar.Accepts given) :
    Command.ofArguments ("convert" :: prompt :: row.flatMap Given.arguments) =
      .ok (CommandName.convert.command
        { given := (row.map Given.pair).reverse, plain? := some prompt }) := by
  have hdashes : prompt ≠ "--" := by
    rintro rfl
    exact hprompt rfl
  have hmarks := classifyAll_cons hdashes (classify_plain hprompt)
    (regular_grammar_convert.classifyAll_row hrow)
  -- What follows the prompt is an option, so the prompt ends where it stands.
  have htake : CommandName.convert.grammar.take ((prompt, .plain) :: row.flatMap Given.marks) {} =
      CommandName.convert.grammar.take (row.flatMap Given.marks) { plain? := some prompt } := by
    cases row with
    | nil => rfl
    | cons given row => cases given <;> rfl
  have hread : CommandName.convert.grammar.read (prompt :: row.flatMap Given.arguments) =
      .ok { given := (row.map Given.pair).reverse, plain? := some prompt } := by
    unfold Grammar.read
    rw [hmarks]
    simp [htake, take_row]
  exact ofArguments_word hread rfl

/-! ## Any order of options -/

/-- Readings with the same texts ask for the same command. -/
theorem command_congr (name : CommandName) {reading other : Reading}
    (hgiven : ∀ option, reading.given.lookup option = other.given.lookup option)
    (hplain : reading.plain? = other.plain?) : name.command reading = name.command other := by
  cases name <;> simp [CommandName.command, Reading.has, hgiven, hplain]

/-- Options of a build that give these texts to these names, in any order and spelling. -/
structure Spells (row : List Given) (pairs : List (String × String)) : Prop where
  accepted : ∀ given ∈ row, CommandName.build.grammar.Accepts given
  perm : (row.map Given.pair).Perm pairs

/-- Only the texts count, not how they are spelled or ordered. -/
theorem Spells.ofArguments {row : List Given} {pairs : List (String × String)}
    (h : Spells row pairs) (hkeys : (pairs.map Prod.fst).Nodup) :
    Command.ofArguments ("build" :: row.flatMap Given.arguments) =
      .ok (CommandName.build.command { given := pairs }) := by
  have hreverse : (row.map Given.pair).reverse.Perm pairs := (List.reverse_perm _).trans h.perm
  rw [ofArguments_build h.accepted]
  exact congrArg Except.ok (command_congr .build (lookup_eq_of_perm hreverse hkeys) rfl)

end CommandLine

end SelfBuild
