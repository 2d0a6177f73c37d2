import Mathlib.Data.List.Basic
import SelfBuild.Proofs.Lint.Script

/-!
# How a clean script ends

The check of the last command looks past labels and takes any command that starts with the letters
of `exit`.  So a script without findings leaves before its close line only if nothing but blank lines
and comments follow its last command, and that command is not a longer word.
-/

namespace SelfBuild

namespace Lint

variable {rs trailing : List Row} {text name s : List Char}

/-- The rows of a preamble without their line numbers. -/
def script (s : List Char) : List Row :=
  (rows s).map Prod.fst

def Row.isCommand : Row -> Bool
  | .command _ => true
  | _ => false

/-- The last row that is not nothing. -/
def lastRow? (rs : List Row) : Option Row :=
  (rs.filter fun row => row ≠ .nothing).getLast?

/-- Whether a command is the jump to the end, or its first word is the one that leaves. -/
def endsScript (text : List Char) : Bool :=
  Text.lower text = "goto :eof".toList || Text.lower (Text.firstWord text) = "exit".toList

/-- Whether a command only starts like the one that leaves. -/
def exitRunsOn (text : List Char) : Bool :=
  "exit".toList.isPrefixOf (Text.lower text) && Text.lower (Text.firstWord text) ≠ "exit".toList

/-- Whether the last row is a command that ends the script. -/
def departs (rs : List Row) : Bool :=
  match lastRow? rs with
  | some (.command text) => endsScript text
  | _ => false

/-- A label behind which no command is left. -/
def Stranded (rs : List Row) (name : List Char) : Prop :=
  ∃ before after, rs = before ++ .label name :: after ∧ ∀ row ∈ after, row.isCommand = false

/-- The last command of a script and the rows behind it. -/
structure Ending (rs : List Row) (text : List Char) (trailing : List Row) : Prop where
  exists_front : ∃ front, rs = front ++ .command text :: trailing
  no_command : ∀ row ∈ trailing, row.isCommand = false

/-! ## The last command -/

theorem exists_ending {rs : List (Row × Nat)} {number : Nat}
    (h : (commands rs).getLast? = some (text, number)) :
    ∃ trailing, Ending (rs.map Prod.fst) text trailing := by
  obtain ⟨given, hgiven⟩ := List.getLast?_eq_some_iff.1 h
  obtain ⟨front, rest, rfl, -, hrest⟩ := List.filterMap_eq_append_iff.1 hgiven
  obtain ⟨between, ⟨row, line⟩, after, rfl, -, hrow, hafter⟩ := List.filterMap_eq_cons_iff.1 hrest
  cases row with
  | nothing => exact absurd hrow (by simp)
  | label name => exact absurd hrow (by simp)
  | command last =>
      simp only [Option.some.injEq, Prod.mk.injEq] at hrow
      obtain ⟨rfl, -⟩ := hrow
      refine ⟨after.map Prod.fst, ⟨(front ++ between).map Prod.fst, by simp⟩, ?_⟩
      rw [List.forall_mem_map]
      rintro ⟨row, line⟩ hmem
      have hnone := List.filterMap_eq_nil_iff.1 hafter _ hmem
      cases row with
      | nothing => rfl
      | label name => rfl
      | command last => exact absurd hnone (by simp)

theorem endsScript_eq_not_exitRunsOn (h : leaves text = true) :
    endsScript text = !exitRunsOn text := by
  simp only [leaves, Bool.or_eq_true, decide_eq_true_eq] at h
  unfold endsScript exitRunsOn
  rcases h with h | h
  · have hexit : "exit".toList.isPrefixOf "goto :eof".toList = false := by decide
    rw [h, hexit]
    rfl
  · have hne : Text.lower text ≠ "goto :eof".toList := by
      intro heq
      rw [heq] at h
      exact absurd h (by decide)
    rw [h, decide_eq_false hne, Bool.false_or, Bool.true_and, decide_not, Bool.not_not]

/-! ## What is behind it -/

theorem Ending.lastRow?_of_nothing (h : Ending rs text trailing)
    (hnothing : ∀ row ∈ trailing, row = .nothing) : lastRow? rs = some (.command text) := by
  obtain ⟨front, hsplit⟩ := h.exists_front
  have hfilter : (trailing.filter fun row => row ≠ .nothing) = [] := by
    rw [List.filter_eq_nil_iff]
    intro row hrow
    simp [hnothing row hrow]
  rw [lastRow?, hsplit, List.filter_append, List.filter_cons_of_pos (by simp), hfilter]
  exact List.getLast?_concat

/-- Once something stands behind the last command, the last row is one of the labels there. -/
theorem Ending.lastRow?_ne_command {row : Row} (h : Ending rs text trailing)
    (hrow : row ∈ trailing) (hne : row ≠ .nothing) (last : List Char) :
    lastRow? rs ≠ some (.command last) := by
  obtain ⟨front, hsplit⟩ := h.exists_front
  have hmem : row ∈ trailing.filter fun row => row ≠ .nothing :=
    List.mem_filter.2 ⟨hrow, by simp [hne]⟩
  have hsome : lastRow? rs = (trailing.filter fun row => row ≠ .nothing).getLast? := by
    have hbehind : rs = front ++ [.command text] ++ trailing := by simp [hsplit]
    rw [lastRow?, hbehind, List.filter_append]
    exact List.getLast?_append_of_ne_nil _ (List.ne_nil_of_mem hmem)
  intro heq
  rw [hsome] at heq
  have hlast := (List.mem_filter.1 (List.mem_of_getLast? heq)).1
  exact absurd (h.no_command _ hlast) (by simp [Row.isCommand])

theorem Ending.departs_iff (h : Ending rs text trailing) :
    departs rs = true ↔ (∀ row ∈ trailing, row = .nothing) ∧ endsScript text = true := by
  by_cases hnothing : ∀ row ∈ trailing, row = .nothing
  · rw [departs, h.lastRow?_of_nothing hnothing]
    exact ⟨fun hends => ⟨hnothing, hends⟩, fun hends => hends.2⟩
  · simp only [not_forall] at hnothing
    obtain ⟨row, hrow, hne⟩ := hnothing
    have hnot : departs rs = false := by
      unfold departs
      split
      · rename_i last heq
        exact absurd heq (h.lastRow?_ne_command hrow hne last)
      · rfl
    simp only [hnot, Bool.false_eq_true, false_iff, not_and]
    intro hall
    exact absurd (hall row hrow) hne

theorem Ending.stranded_iff (h : Ending rs text trailing) :
    Stranded rs name ↔ .label name ∈ trailing := by
  obtain ⟨front, hsplit⟩ := h.exists_front
  constructor
  · rintro ⟨before, after, heq, hafter⟩
    rw [hsplit] at heq
    rcases List.append_eq_append_iff.1 heq with ⟨more, rfl, hmore⟩ | ⟨more, rfl, hmore⟩
    · cases more with
      | nil => exact absurd (List.cons.inj hmore).1 (by simp)
      | cons row more =>
          rw [(List.cons.inj hmore).2]
          simp
    · cases more with
      | nil => exact absurd (List.cons.inj hmore).1 (by simp)
      | cons row more =>
          have hmem : .command text ∈ after := by
            rw [(List.cons.inj hmore).2]
            simp
          exact absurd (hafter _ hmem) (by simp [Row.isCommand])
  · intro hmem
    obtain ⟨between, after, rfl⟩ := List.append_of_mem hmem
    refine ⟨front ++ .command text :: between, after, by simp [hsplit], fun row hrow => ?_⟩
    exact h.no_command row (List.mem_append_right between (List.mem_cons_of_mem _ hrow))

/-! ## Scripts without findings -/

theorem label_mem_script_of_mem_labels {rs : List (Row × Nat)} (h : name ∈ labels rs) :
    name = "eof".toList ∨ .label name ∈ rs.map Prod.fst := by
  rcases List.mem_cons.1 h with rfl | h
  · exact .inl rfl
  · obtain ⟨⟨row, number⟩, hmem, hrow⟩ := List.mem_filterMap.1 h
    cases row with
    | nothing => exact absurd hrow (by simp)
    | command text => exact absurd hrow (by simp)
    | label found =>
        obtain rfl := Option.some.inj hrow
        exact .inr (List.mem_map.2 ⟨_, hmem, rfl⟩)

/-- A script without findings departs exactly when nothing but blank lines and comments stand behind
its last command and that command does not run on.  Its jumps name the end or a label of the script,
and such a jump leads past all commands exactly when its label stands behind the last one. -/
theorem ending_of_batch_eq_nil (h : batch s = []) :
    ∃ text trailing, Ending (script s) text trailing ∧ leaves text = true ∧
      (departs (script s) = true ↔
        (∀ row ∈ trailing, row = .nothing) ∧ exitRunsOn text = false) ∧
      (∀ row ∈ script s, ∀ target ∈ row.jumps,
        (target = "eof".toList ∨ .label target ∈ script s) ∧
          (Stranded (script s) target ↔ .label target ∈ trailing)) ∧
      (departs (script s) = true → ∀ name, ¬ Stranded (script s) name) := by
  obtain ⟨-, hjumps, hlast⟩ := (batch_eq_nil_iff s).1 h
  obtain ⟨text, number, hcommand, hleaves⟩ := lastCommand_eq_nil_iff.1 hlast
  obtain ⟨trailing, hending⟩ : ∃ trailing, Ending (script s) text trailing :=
    exists_ending hcommand
  refine ⟨text, trailing, hending, hleaves, ?_, ?_, ?_⟩
  · rw [hending.departs_iff, endsScript_eq_not_exitRunsOn hleaves, Bool.not_eq_true']
  · intro row hrow target htarget
    obtain ⟨⟨row, number⟩, hmem, rfl⟩ := List.mem_map.1 hrow
    have hknown := unknownJumps_eq_nil_iff.1 hjumps _ hmem target htarget
    exact ⟨label_mem_script_of_mem_labels hknown, hending.stranded_iff⟩
  · intro hdeparts name hstranded
    have hnothing := (hending.departs_iff.1 hdeparts).1
    exact absurd (hnothing _ (hending.stranded_iff.1 hstranded)) (by simp)

theorem ending_of_jump_over_label :
    let s := "/*\ngoto :build\n:build\necho built\ngoto :eof\n*/\n".toList
    batch s = [] ∧ departs (script s) = true ∧ (∀ name, ¬ Stranded (script s) name) ∧
      ∃ text trailing, Ending (script s) text trailing ∧ leaves text = true := by
  intro s
  have hclean : batch s = [] := by decide +kernel
  have hdeparts : departs (script s) = true := by decide +kernel
  obtain ⟨text, trailing, hending, hleaves, -, -, hstranded⟩ := ending_of_batch_eq_nil hclean
  exact ⟨hclean, hdeparts, hstranded hdeparts, text, trailing, hending, hleaves⟩

/-- A script without findings may end with a label that it jumps to, or with a longer word. -/
theorem clean_without_departure :
    let labelLast := "/*\ngoto end\nexit\n:end\n*/\n".toList
    let longerWord := "/*\nexitcode\n*/\n".toList
    (batch labelLast = [] ∧ departs (script labelLast) = false ∧
      Stranded (script labelLast) "end".toList) ∧
      batch longerWord = [] ∧ departs (script longerWord) = false := by
  intro labelLast longerWord
  have hscript : script labelLast =
      [.command "goto end".toList, .command "exit".toList] ++ .label "end".toList :: [] := by
    decide +kernel
  refine ⟨⟨by decide +kernel, by decide +kernel, ?_⟩, by decide +kernel, by decide +kernel⟩
  exact ⟨_, _, hscript, List.forall_mem_nil _⟩

end Lint

end SelfBuild
