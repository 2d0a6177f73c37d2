import SelfBuild.Proofs.Lint.Blocks
import SelfBuild.Proofs.Lint.Departure
import SelfBuild.Proofs.Lint.Layout

/-!
# Echoed text

The carets that escape a text for an echo and the rules by which the linter drops quoted and escaped
characters fit together: of an echoed text the linter hears what stands outside quotes, without the characters
that have a meaning of their own.  So an echo opens and closes no block, wherever it stands.  Jumps, though,
are looked for before a line is known to be an echo, and what is heard of a text may look like one.
-/

namespace SelfBuild

namespace Lint

open Preamble

variable {text : List Char} {c : Char} {number : Nat} {xs ys : List (Row × Nat)}

/-! ## What is heard of an echo -/

/-- The characters of a text outside quotes. -/
def outsideQuotes (quoted : Bool) : List Char → List Char
  | [] => []
  | c :: rest =>
      if c = '"' then outsideQuotes (!quoted) rest
      else if quoted then outsideQuotes true rest
      else c :: outsideQuotes false rest

/-- What stands outside quotes in a text, without the characters that have a meaning of their own. -/
def plainPart (quoted : Bool) (text : List Char) : List Char :=
  (outsideQuotes quoted text).filter fun c => !isMeta c

theorem isMeta_iff : isMeta c = true ↔ c ∈ ['^', '&', '|', '<', '>', '(', ')'] := by
  simp [isMeta, or_assoc]

theorem ne_quote_of_isMeta (h : isMeta c = true) : c ≠ '"' := by
  rintro rfl
  cases h

theorem ne_caret_of_not_isMeta (h : ¬ isMeta c = true) : c ≠ '^' := by
  rintro rfl
  exact h rfl

theorem escapeEcho_cons (c : Char) (text : List Char) :
    escapeEcho (c :: text) = (if isMeta c then ['^', c] else [c]) ++ escapeEcho text := rfl

theorem escapeEcho_cons_ne_nil (c : Char) (text : List Char) : escapeEcho (c :: text) ≠ [] := by
  rw [escapeEcho_cons]
  cases isMeta c <;> simp

/-- Escaped characters are dropped with their carets, and a caret between quotes is dropped as quoted text. -/
theorem bareFrom_escapeEcho (quoted : Bool) (text : List Char) :
    bareFrom quoted (escapeEcho text) = plainPart quoted text := by
  induction text generalizing quoted with
  | nil => cases quoted <;> rfl
  | cons c text ih =>
      rw [escapeEcho_cons, plainPart, outsideQuotes]
      by_cases hquote : c = '"'
      · subst hquote
        exact (bareFrom_quote quoted _).trans (ih _)
      · by_cases hmeta : isMeta c = true
        · rw [if_pos hmeta, if_neg hquote]
          cases quoted with
          | false =>
              rw [if_neg Bool.false_ne_true, List.filter_cons_of_neg (by simp [hmeta])]
              exact ih false
          | true =>
              rw [if_pos rfl]
              have hcaret := bareFrom_true_cons_of_ne (c := '^') (by decide) (c :: escapeEcho text)
              exact hcaret.trans ((bareFrom_true_cons_of_ne hquote _).trans (ih true))
        · have hcaret := ne_caret_of_not_isMeta hmeta
          rw [if_neg hmeta, if_neg hquote]
          cases quoted with
          | false =>
              rw [if_neg Bool.false_ne_true, List.filter_cons_of_pos (by simp [hmeta])]
              exact (bareFrom_cons_of_ne hcaret hquote _).trans (congrArg (c :: ·) (ih false))
          | true =>
              rw [if_pos rfl]
              exact (bareFrom_true_cons_of_ne hquote _).trans (ih true)

theorem isBlank_of_isMeta (h : isMeta c = true) : Text.isBlank c = false := by
  have hall : ∀ c ∈ ['^', '&', '|', '<', '>', '(', ')'], Text.isBlank c = false := by decide
  exact hall c (isMeta_iff.1 h)

/-- A character that is escaped is not blank, so escapes stay with the characters they belong to. -/
theorem trimRight_escapeEcho (text : List Char) :
    Text.trimRight (escapeEcho text) = escapeEcho (Text.trimRight text) := by
  induction text with
  | nil => rfl
  | cons c text ih =>
      rw [escapeEcho_cons, Text.trimRight]
      by_cases hmeta : isMeta c = true
      · have hblank := isBlank_of_isMeta hmeta
        have htrim := Text.trimRight_append_cons hblank ['^'] (escapeEcho text)
        have hsplit : ['^', c] ++ escapeEcho text = ['^'] ++ c :: escapeEcho text := rfl
        rw [if_pos hmeta, hsplit, htrim, ih, hblank]
        cases Text.trimRight text <;> simp [hmeta, escapeEcho]
      · rw [if_neg hmeta, List.singleton_append, Text.trimRight, ih]
        cases Text.trimRight text with
        | nil => cases Text.isBlank c <;> simp [escapeEcho, hmeta]
        | cons d rest =>
            obtain ⟨e, more, hescaped⟩ := List.exists_cons_of_ne_nil (escapeEcho_cons_ne_nil d rest)
            rw [hescaped, escapeEcho_cons, if_neg hmeta, hescaped]
            rfl

/-- What the check hears of a text that is echoed. -/
def heard (text : List Char) : List Char :=
  plainPart false (Text.trimRight text)

/-- A line that echoes a text. -/
def echoLine (text : List Char) : List Char :=
  "echo ".toList ++ escapeEcho text

theorem closing_not_mem_heard (text : List Char) : ')' ∉ heard text := by
  simp [heard, plainPart, isMeta]

theorem trim_echoLine (text : List Char) :
    Text.trim (echoLine text) = "echo".toList ∧ Text.trimRight text = [] ∨
      Text.trim (echoLine text) = "echo ".toList ++ escapeEcho (Text.trimRight text) := by
  have htrim := Text.trim_append_cons (b := 'e') (c := 'o') (by decide) (by decide) ['c', 'h']
    (' ' :: escapeEcho text)
  have hsplit : echoLine text = ['e', 'c', 'h'] ++ 'o' :: ' ' :: escapeEcho text := rfl
  rw [hsplit, htrim, Text.trimRight, trimRight_escapeEcho]
  cases Text.trimRight text with
  | nil => exact .inl ⟨rfl, rfl⟩
  | cons c rest =>
      right
      obtain ⟨d, more, hescaped⟩ := List.exists_cons_of_ne_nil (escapeEcho_cons_ne_nil c rest)
      rw [hescaped]
      rfl

/-- No jump starts before the text of an echo. -/
theorem jumps_echo_append (text : List Char) : jumps ("echo ".toList ++ text) = jumps text := by
  rfl

theorem isEcho_echo_append (text : List Char) : isEcho ("echo ".toList ++ text) = true := by
  rfl

theorem ofLine_echoLine (text : List Char) :
    ∃ command, Row.ofLine (echoLine text) = .command command ∧ isEcho (bare command) = true ∧
      ')' ∉ bare command ∧ jumps (bare command) = jumps (heard text) := by
  refine ⟨Text.trim (echoLine text), ofLine_eq_command ?_, ?_⟩
  · obtain ⟨htrim, -⟩ | htrim := trim_echoLine text <;> rw [htrim] <;> rfl
  · obtain ⟨htrim, hnil⟩ | htrim := trim_echoLine text
    · rw [htrim, heard, hnil]
      decide +kernel
    · have hplain : ∀ c ∈ "echo ".toList, c ≠ '^' ∧ c ≠ '"' := by decide
      have hbare : bare (Text.trim (echoLine text)) = "echo ".toList ++ heard text := by
        rw [htrim, bare, bareFrom_append_plain hplain, bareFrom_escapeEcho]
        rfl
      rw [hbare, jumps_echo_append]
      refine ⟨isEcho_echo_append _, ?_, rfl⟩
      rw [List.mem_append, not_or]
      exact ⟨by decide, closing_not_mem_heard text⟩

/-! ## An echo more -/

theorem commands_append (xs ys : List (Row × Nat)) : commands (xs ++ ys) = commands xs ++ commands ys :=
  List.filterMap_append

theorem bareCommands_insert (xs ys : List (Row × Nat)) (text : List Char) (number : Nat) :
    bareCommands (xs ++ (.command text, number) :: ys) =
      bareCommands xs ++ (bare text, number) :: bareCommands ys := by
  rw [bareCommands, commands_append, List.map_append]
  rfl

theorem labels_insert_command (xs ys : List (Row × Nat)) (text : List Char) (number : Nat) :
    labels (xs ++ (.command text, number) :: ys) = labels (xs ++ ys) := by
  simp [labels]

theorem blocks_insert_echo (hecho : isEcho (bare text) = true) (hclosing : ')' ∉ bare text) (depth : Nat) :
    blocks depth (bareCommands (xs ++ (.command text, number) :: ys)) =
      blocks depth (bareCommands (xs ++ ys)) := by
  induction xs generalizing depth with
  | nil =>
      have hword : (Row.command text).word = [] := by simp [Row.word, hecho]
      have hfindings : (Row.command text).findings depth number = [] := by
        simp [Row.findings, hecho, hclosing]
      rw [List.nil_append, List.nil_append, blocks_step, hword, hfindings]
      rfl
  | cons row xs ih =>
      obtain ⟨row, line⟩ := row
      rw [List.cons_append, List.cons_append, blocks_step, blocks_step, ih]

theorem lastCommand_insert (hys : commands ys ≠ []) :
    lastCommand (commands (xs ++ (.command text, number) :: ys)) = lastCommand (commands (xs ++ ys)) := by
  have hcons : commands ((.command text, number) :: ys) = (text, number) :: commands ys := rfl
  have hlast : ((text, number) :: commands ys).getLast? = (commands ys).getLast? :=
    List.getLast?_append_of_ne_nil [(text, number)] hys
  rw [lastCommand, lastCommand, commands_append, commands_append, hcons,
    List.getLast?_append_of_ne_nil _ (List.cons_ne_nil _ _), hlast, List.getLast?_append_of_ne_nil _ hys]

theorem unknownJumps_append (names : List (List Char)) (given more : List (List Char × Nat)) :
    unknownJumps names (given ++ more) = unknownJumps names given ++ unknownJumps names more :=
  List.flatMap_append

/-- An echo without a closing parenthesis brings in nothing but the jumps that it seems to have. -/
theorem scriptFindings_insert_echo (hecho : isEcho (bare text) = true) (hclosing : ')' ∉ bare text)
    (hys : commands ys ≠ []) :
    ∃ front back, scriptFindings (xs ++ ys) = front ++ back ∧
      scriptFindings (xs ++ (.command text, number) :: ys) =
        front ++ unknownJumps (labels (xs ++ ys)) [(bare text, number)] ++ back := by
  let names := labels (xs ++ ys)
  let found := blocks 0 (bareCommands (xs ++ ys))
  let onBlocks := found.1 ++ if found.2 = 0 then [] else [⟨.openBlocks found.2, none⟩]
  refine ⟨onBlocks ++ unknownJumps names (bareCommands xs),
    unknownJumps names (bareCommands ys) ++ lastCommand (commands (xs ++ ys)), ?_, ?_⟩
  · have hjumps : unknownJumps names (bareCommands (xs ++ ys)) =
        unknownJumps names (bareCommands xs) ++ unknownJumps names (bareCommands ys) := by
      rw [bareCommands, commands_append, List.map_append, unknownJumps_append]
      rfl
    simp only [scriptFindings, onBlocks, found, names, hjumps, List.append_assoc]
  · have hjumps : unknownJumps names (bareCommands (xs ++ (.command text, number) :: ys)) =
        unknownJumps names (bareCommands xs) ++
          (unknownJumps names [(bare text, number)] ++ unknownJumps names (bareCommands ys)) := by
      rw [bareCommands_insert, List.append_cons, unknownJumps_append, unknownJumps_append, List.append_assoc]
    simp only [scriptFindings, blocks_insert_echo hecho hclosing, labels_insert_command, lastCommand_insert hys,
      onBlocks, found, names, hjumps, List.append_assoc]

theorem commands_numbered_ne_nil {ls : List (List Char)} (start : Nat)
    (h : ∃ line ∈ ls, (Row.ofLine line).isCommand = true) : commands (numbered start ls) ≠ [] := by
  obtain ⟨line, hline, hcommand⟩ := h
  obtain ⟨before, behind, rfl⟩ := List.append_of_mem hline
  rw [numbered_append, numbered_cons, commands_append]
  cases hrow : Row.ofLine line with
  | command text => exact List.append_ne_nil_of_right_ne_nil _ (List.cons_ne_nil _ _)
  | nothing => simp [hrow, Row.isCommand] at hcommand
  | label name => simp [hrow, Row.isCommand] at hcommand

theorem feed_not_mem_echoLine {text : List Char} (h : '\n' ∉ text) : '\n' ∉ echoLine text := by
  have hword : '\n' ∉ "echo ".toList := by decide
  rw [echoLine, List.mem_append, not_or, escapeEcho, List.mem_flatMap]
  refine ⟨hword, ?_⟩
  rintro ⟨c, hc, hmem⟩
  have hne : '\n' ≠ c := by
    rintro rfl
    exact h hc
  cases hmeta : isMeta c <;> simp [hmeta, hne] at hmem

/-- An echo that is put in front of some command moves the findings behind it by one line.  All that it can
add are jumps to unknown labels: the check takes for a jump what looks like one among the characters that it
hears of the echoed text. -/
theorem batch_insert_echo {ls : List (List Char)} {rest text : List Char} (hls : ls ≠ [])
    (hfeed : ∀ line ∈ ls, '\n' ∉ line) (htext : '\n' ∉ text)
    (hcommand : ∃ line ∈ (Text.lines rest).dropLast, (Row.ofLine line).isCommand = true) :
    let s := Text.unlines ls ++ rest
    let t := Text.unlines ls ++ (echoLine text ++ '\n' :: rest)
    let number := ls.length + 1
    let moved := Finding.renumbered (raised number)
    let blamed := (jumps (heard text)).filter fun target => !(labels (rows s)).contains target
    (∃ front back, batch s = front ++ back ∧
        batch t = front.map moved ++
          (blamed.map fun target => ⟨.unknownLabel (String.ofList target), some number⟩) ++ back.map moved) ∧
      (batch t = (batch s).map moved ↔ ∀ target ∈ jumps (heard text), target ∈ labels (rows s)) ∧
      (¬ "goto".toList <:+: (heard text).map Char.toLower → batch t = (batch s).map moved) := by
  intro s t number moved blamed
  have hrest : rest ≠ [] := by
    rintro rfl
    obtain ⟨line, hmem, -⟩ := hcommand
    exact absurd hmem List.not_mem_nil
  obtain ⟨before, hrows, hinserted⟩ := rows_insert hls hfeed hrest (feed_not_mem_echoLine htext)
  obtain ⟨command, hrow, hecho, hclosing, hjumps⟩ := ofLine_echoLine text
  let behind := numbered number (Text.lines rest).dropLast
  have hbehind : commands (renumber (raised number) behind) ≠ [] := by
    rw [commands_renumber]
    exact fun hnil => commands_numbered_ne_nil number hcommand (List.map_eq_nil_iff.1 hnil)
  have hadded : unknownJumps (labels (rows s)) [(bare command, number)] =
      blamed.map fun target => ⟨.unknownLabel (String.ofList target), some number⟩ := by
    simp only [unknownJumps, List.flatMap_cons, List.flatMap_nil, List.append_nil, hjumps, blamed]
  obtain ⟨movedFront, movedBack, hmoved, ht⟩ :=
    @scriptFindings_insert_echo command number (renumber (raised number) before) _ hecho hclosing hbehind
  rw [← renumber_append, scriptFindings_renumber] at hmoved
  obtain ⟨front, back, hs, rfl, rfl⟩ := List.map_eq_append_iff.1 hmoved
  rw [← renumber_append, labels_renumber, ← hrows, hadded, ← hrow, ← hinserted] at ht
  rw [← hrows] at hs
  have hsame : batch t = (batch s).map moved ↔
      ∀ target ∈ jumps (heard text), target ∈ labels (rows s) := by
    have hbatch : batch s = front ++ back := hs
    have hnone : blamed = [] ↔ ∀ target ∈ jumps (heard text), target ∈ labels (rows s) := by
      simp [blamed]
    rw [batch_eq_scriptFindings t, ht, hbatch, List.map_append, List.append_assoc, List.append_cancel_left_eq,
      List.append_left_eq_self, List.map_eq_nil_iff, hnone]
  refine ⟨⟨front, back, hs, ht⟩, hsame, fun hgoto => hsame.2 ?_⟩
  rw [jumps_eq_nil hgoto]
  exact List.forall_mem_nil _

theorem batch_insert_echo_of_brackets :
    let ls := ["/*".toList, "if 1==1 (".toList]
    let rest := ")\ngoto :eof\n*/\n".toList
    let text := "done (1 > 0) \"goto work\"".toList
    (ls ≠ [] ∧ (∀ line ∈ ls, '\n' ∉ line) ∧ '\n' ∉ text ∧
        ∃ line ∈ (Text.lines rest).dropLast, (Row.ofLine line).isCommand = true) ∧
      batch (Text.unlines ls ++ (echoLine text ++ '\n' :: rest)) =
        (batch (Text.unlines ls ++ rest)).map (Finding.renumbered (raised 3)) := by
  intro ls rest text
  have hls : ls ≠ [] := List.cons_ne_nil _ _
  have hfeed : ∀ line ∈ ls, '\n' ∉ line := by decide +kernel
  have htext : '\n' ∉ text := by decide +kernel
  have hcommand : ∃ line ∈ (Text.lines rest).dropLast, (Row.ofLine line).isCommand = true := by
    refine ⟨"goto :eof".toList, ?_, ?_⟩ <;> decide +kernel
  have hquiet : ∀ target ∈ jumps (heard text), target ∈ labels (rows (Text.unlines ls ++ rest)) := by
    decide +kernel
  exact ⟨⟨hls, hfeed, htext, hcommand⟩, (batch_insert_echo hls hfeed htext hcommand).2.1.2 hquiet⟩

/-- An echoed text is blamed for a jump that it only speaks of. -/
theorem echo_blamed_for_jump :
    let ls := ["/*".toList]
    let rest := "goto :eof\n*/\n".toList
    let text := "goto work".toList
    let s := Text.unlines ls ++ rest
    let t := Text.unlines ls ++ (echoLine text ++ '\n' :: rest)
    '\n' ∉ text ∧ Row.ofLine "goto :eof".toList = .command "goto :eof".toList ∧ batch s = [] ∧
      batch t = [⟨.unknownLabel "work", some 2⟩] ∧
      batch t ≠ (batch s).map (Finding.renumbered (raised 2)) := by
  decide +kernel

end Lint

end SelfBuild
