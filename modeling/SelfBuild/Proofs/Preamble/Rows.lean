import SelfBuild.Proofs.FileName
import SelfBuild.Proofs.Lint.Script
import SelfBuild.Proofs.Lint.Syntax
import SelfBuild.Proofs.Preamble.Lines

/-!
# A preamble row by row

Every line between the delimiters is read as the batch grammar reads it.  A line that shows the stem
or an option is an echo without block syntax; the head of a loop opens one block and the rest of the
loop closes it, so each root leaves the depth as it was; and the only jumps are those to the end.
-/

namespace SelfBuild

namespace Preamble

open Lint

variable {options : Options} {stem root line : List Char} {roots : List (List Char)}

/-- A row that keeps to depth zero and jumps to the end at most. -/
def Level (row : Row) : Prop :=
  advance 0 row = some 0 ∧ ∀ target ∈ row.jumps, target = "eof".toList

instance (row : Row) : Decidable (Level row) := inferInstanceAs (Decidable (_ ∧ _))

/-! ## Lines that show a stem or an option -/

theorem ne_and_ne_of_not_mem {a b c : Char} {cs : List Char} (h : c ∉ cs) (ha : a ∈ cs)
    (hb : b ∈ cs) : c ≠ a ∧ c ≠ b := by
  constructor
  · rintro rfl
    exact h ha
  · rintro rfl
    exact h hb

theorem isStemChar_plain {c : Char} (h : FileName.isStemChar c = true) : c ≠ '^' ∧ c ≠ '"' := by
  constructor <;> rintro rfl <;> exact absurd h (by decide)

/-- An echo that ends with the name of the program. -/
theorem level_named {head : List Char} (hopen : opensCommand head = true)
    (hplain : ∀ c ∈ head, c ≠ '^' ∧ c ≠ '"')
    (hecho : isEcho (head ++ stem ++ ".exe".toList) = true)
    (hjump : ¬ "goto".toList <:+: head.map Char.toLower)
    (hstem : ∀ c ∈ stem, FileName.isStemChar c = true) :
    Level (Row.ofLine (head ++ stem ++ ".exe".toList)) := by
  have hbare : bare (head ++ stem ++ ".exe".toList) = head ++ stem ++ ".exe".toList :=
    bare_of_plain
      (forall_mem_framed hplain (fun c hc => isStemChar_plain (hstem c hc)) (by decide))
  have hnone : jumps (head ++ stem ++ ".exe".toList) = [] := by
    rw [List.append_assoc]
    refine jumps_append_eq_nil hjump (List.forall_mem_append.2 ⟨fun c hc => ?_, by decide⟩)
    exact FileName.isBlank_of_isSafeChar (FileName.isSafeChar_of_isStemChar (hstem c hc))
  rw [ofLine_framed (d := 'e') hopen rfl (by decide)]
  constructor
  · exact advance_echo (by rw [hbare, hecho])
  · rw [jumps_command, hbare, hnone]
    exact List.forall_mem_nil _

theorem level_targetLine (hstem : ∀ c ∈ stem, FileName.isStemChar c = true) :
    Level (Row.ofLine (targetLine stem)) :=
  level_named (by decide) (by decide) rfl (by decide +kernel) hstem

theorem level_createdLine (hstem : ∀ c ∈ stem, FileName.isStemChar c = true) :
    Level (Row.ofLine (createdLine stem)) :=
  level_named (by decide) (by decide) rfl (by decide +kernel) hstem

theorem level_architectureLine (architecture : Architecture) :
    Level (Row.ofLine (architectureLine architecture)) := by
  cases architecture <;> decide +kernel

theorem level_outputLine (output : OutputKind) : Level (Row.ofLine (outputLine output)) := by
  cases output <;> decide +kernel

/-! ## The compiler call -/

theorem tail_plain (options : Options) :
    ∀ c ∈ Switches.tail options, c ∉ ['^', '"', '(', ')'] := by
  have hwords : ∀ word ∈ Switches.vocabulary, ∀ c ∈ word.toList, c ∉ ['^', '"', '(', ')'] := by
    decide
  intro c hc
  rcases Switches.mem_tail hc with rfl | ⟨word, hword, hc⟩
  · decide
  · exact hwords word hword c hc

theorem tail_no_jump (options : Options) :
    ¬ "goto".toList <:+: (Switches.tail options).map Char.toLower := by
  have hwords : ∀ word ∈ Switches.vocabulary,
      ¬ "goto".toList <:+: word.toList.map Char.toLower := by
    decide +kernel
  have htail : (Switches.tail options).map Char.toLower =
      [] ++ ((Switches.afterName options).map fun word => word.toList.map Char.toLower).flatMap
        fun word => ' ' :: word := by
    rw [Switches.tail, List.map_flatMap, List.flatMap_map, List.nil_append]
    rfl
  rw [htail, Text.infix_append_flatMap_cons_iff (by decide)]
  rintro (h | ⟨word, hmem, h⟩)
  · exact absurd (List.infix_nil.1 h) (by decide)
  · obtain ⟨spelled, hspelled, rfl⟩ := List.mem_map.1 hmem
    exact hwords spelled (Switches.afterName_subset options hspelled) h

/-- What the interpreter sees of the call: the name of the program is quoted. -/
theorem bare_compilerCall (hstem : ∀ c ∈ stem, FileName.isStemChar c = true) :
    bare (compilerCall (Switches.ofOptions options (String.ofList stem))) =
      " /nologo /out:".toList ++ (Switches.tail options ++ [' ']) := by
  have hname : '"' ∉ stem ++ ".exe".toList := by
    rw [List.mem_append, not_or]
    exact ⟨fun hc => (isStemChar_plain (hstem _ hc)).2 rfl, by decide⟩
  have htail : ∀ c ∈ Switches.tail options ++ [' '], c ≠ '^' ∧ c ≠ '"' := by
    intro c hc
    rcases List.mem_append.1 hc with hc | hc
    · exact ne_and_ne_of_not_mem (tail_plain options c hc) (by decide) (by decide)
    · rw [List.mem_singleton.1 hc]
      decide
  rw [bare, compilerCall_eq, bareFrom_quote_append_quote (by decide), bareFrom_append_plain (by decide),
    bareFrom_quote_append_quote hname, bareFrom_append_plain htail,
    bareFrom_quote_append_quote (by decide), bareFrom.eq_1, List.append_nil]

theorem ofLine_compilerCall (switches : Switches) :
    Row.ofLine (compilerCall switches) = .command (compilerCall switches) := by
  have hcall : compilerCall switches =
      "\"%CSC%\" ".toList ++ switches.line.toList ++ ([' '] ++ selfReference) := by
    unfold compilerCall
    exact List.append_assoc ..
  have hlast : ([' '] ++ selfReference).getLast? = some '"' := by decide
  rw [hcall]
  exact ofLine_framed (by decide) hlast (by decide)

theorem level_compilerCall (hstem : ∀ c ∈ stem, FileName.isStemChar c = true) :
    Level (Row.ofLine (compilerCall (Switches.ofOptions options (String.ofList stem)))) := by
  rw [ofLine_compilerCall]
  constructor
  · refine advance_command ?_ ?_
    · rw [bare_compilerCall hstem]
      rfl
    · rw [bare_compilerCall hstem, parentheses_append_of_not_mem (by decide)]
      refine parentheses_of_not_mem (List.forall_mem_append.2 ⟨fun c hc => ?_, by decide⟩) 0
      exact ne_and_ne_of_not_mem (tail_plain options c hc) (by decide) (by decide)
  · have hline : (" /nologo /out:".toList ++ (Switches.tail options ++ [' '])).map Char.toLower =
        " /nologo /out".toList ++ ':' :: ((Switches.tail options).map Char.toLower ++ ' ' :: []) := by
      simp only [List.map_append]
      rfl
    have hnone : ¬ "goto".toList <:+:
        (" /nologo /out:".toList ++ (Switches.tail options ++ [' '])).map Char.toLower := by
      rw [hline, Text.infix_append_cons_iff (by decide), Text.infix_append_cons_iff (by decide)]
      rintro (h | h | h)
      · exact absurd h (by decide +kernel)
      · exact tail_no_jump options h
      · exact absurd (List.infix_nil.1 h) (by decide)
    rw [jumps_command, bare_compilerCall hstem, jumps_eq_nil hnone]
    exact List.forall_mem_nil _

/-! ## The search -/

theorem indents_blank {pad : List Char} (hpad : pad ∈ indents) :
    ∀ c ∈ pad, Text.isBlank c = true := by
  have hall : ∀ pad ∈ indents, ∀ c ∈ pad, Text.isBlank c = true := by decide
  exact hall pad hpad

theorem ofLine_versionsLine {pad : List Char} (hpad : pad ∈ indents) (root : List Char) :
    Row.ofLine (versionsLine pad root) = .command (versionsLine [] root) := by
  have hpadded : versionsLine pad root = pad ++ versionsLine [] root ++ [] := by
    simp [versionsLine]
  rw [hpadded, ofLine_blank_append_blank (indents_blank hpad) (by simp)]
  exact ofLine_framed (d := '(') (by decide) rfl (by decide)

theorem bare_versionsLine (hroot : PlainRoot root) :
    bare (versionsLine [] root) = versionsLine [] root := by
  refine bare_of_plain (forall_mem_framed (by decide) (fun c hc => ?_) (by decide))
  exact ne_and_ne_of_not_mem (hroot.no_syntax c hc) (by decide) (by decide)

/-- A loop over versions opens one block: its pattern closes the one it opens. -/
theorem advance_versionsLine (hroot : PlainRoot root) (depth : Nat) :
    advance depth (.command (versionsLine [] root)) = some (depth + 1) := by
  have hplain : ∀ c ∈ root ++ "\\v*".toList, c ≠ '(' ∧ c ≠ ')' := by
    intro c hc
    rcases List.mem_append.1 hc with hc | hc
    · exact ne_and_ne_of_not_mem (hroot.no_syntax c hc) (by decide) (by decide)
    · have hversion : ∀ c ∈ "\\v*".toList, c ≠ '(' ∧ c ≠ ')' := by decide
      exact hversion c hc
  have hline : versionsLine [] root =
      "for /d %%i in ".toList ++ '(' :: (root ++ "\\v*".toList ++ ") do (".toList) := by
    simp [versionsLine]
  refine advance_command ?_ ?_
  · rw [bare_versionsLine hroot]
    rfl
  · rw [bare_versionsLine hroot, hline, parentheses_append_of_not_mem (by decide),
      parentheses.eq_def]
    simp only [if_true]
    rw [parentheses_append_of_not_mem hplain]
    rfl

theorem jumps_versionsLine (hroot : PlainRoot root) : jumps (versionsLine [] root) = [] := by
  have hnone : ¬ "goto".toList <:+: (versionsLine [] root).map Char.toLower := by
    have hline : (versionsLine [] root).map Char.toLower =
        ("for /d %%i in ".toList).map Char.toLower ++ '(' :: (root.map Char.toLower ++
          '\\' :: ("v*) do (".toList).map Char.toLower) := by
      rw [versionsLine_eq]
      simp only [List.map_append, List.map_cons, List.nil_append]
      rfl
    rw [hline, Text.infix_append_cons_iff (by decide), Text.infix_append_cons_iff (by decide)]
    -- neither of the fixed parts has the first letter of a jump
    rintro (h | h | h)
    · exact Text.not_infix_of_not_mem (c := 'g') (by decide) (by decide) h
    · exact hroot.no_jump h
    · exact Text.not_infix_of_not_mem (c := 'g') (by decide) (by decide) h
  exact jumps_eq_nil hnone

end Preamble

end SelfBuild
