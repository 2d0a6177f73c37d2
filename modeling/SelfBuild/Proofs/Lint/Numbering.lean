import SelfBuild.Proofs.Lint.Script
import SelfBuild.Proofs.Text.Lines

/-!
# Numbers of lines

The rows of a script are its inner lines, numbered from two on, and the numbers only tag findings: under other
numbers a script has the same findings, each with the number its line has then.  A line that is put in is one
more row, behind which all numbers are raised by one.
-/

namespace SelfBuild

namespace Lint

variable {line first rest : List Char} {ls body : List (List Char)} {start number : Nat}

/-- The lines between the first and the last. -/
def innerLines (s : List Char) : List (List Char) :=
  (Text.lines s).tail.dropLast

/-- Lines as rows, numbered from `start` on. -/
def numbered (start : Nat) (ls : List (List Char)) : List (Row × Nat) :=
  (ls.zipIdx start).map fun (line, number) => (Row.ofLine line, number)

theorem numbered_cons (start : Nat) (line : List Char) (ls : List (List Char)) :
    numbered start (line :: ls) = (Row.ofLine line, start) :: numbered (start + 1) ls := rfl

theorem numbered_append (start : Nat) (xs ys : List (List Char)) :
    numbered start (xs ++ ys) = numbered start xs ++ numbered (start + xs.length) ys := by
  rw [numbered, List.zipIdx_append, List.map_append]
  rfl

theorem rows_eq_numbered (s : List Char) : rows s = numbered 2 (innerLines s) := by
  rw [rows, innerLines, numbered]
  cases Text.lines s <;> rfl

theorem innerLines_append (hfeed : ∀ line ∈ first :: body, '\n' ∉ line) (hrest : rest ≠ []) :
    innerLines (Text.unlines (first :: body) ++ rest) = body ++ (Text.lines rest).dropLast := by
  rw [innerLines, Text.lines_unlines_append hfeed, List.cons_append, List.tail_cons,
    List.dropLast_append_of_ne_nil (Text.lines_ne_nil hrest)]

/-! ## Other numbers -/

/-- A finding whose line has another number. -/
def Finding.renumbered (g : Nat → Nat) (finding : Finding) : Finding :=
  { finding with line := finding.line.map g }

def renumber (g : Nat → Nat) (rs : List (Row × Nat)) : List (Row × Nat) :=
  rs.map fun (row, number) => (row, g number)

theorem blocks_renumber (g : Nat → Nat) (depth : Nat) (given : List (List Char × Nat)) :
    blocks depth (given.map fun (text, number) => (text, g number)) =
      ((blocks depth given).1.map (Finding.renumbered g), (blocks depth given).2) := by
  induction given generalizing depth with
  | nil => rfl
  | cons first rest ih =>
      obtain ⟨text, number⟩ := first
      simp only [List.map_cons, blocks, ih]
      split
      · split <;> rfl
      · simp [Finding.renumbered]

theorem commands_renumber (g : Nat → Nat) (rs : List (Row × Nat)) :
    commands (renumber g rs) = (commands rs).map fun (text, number) => (text, g number) := by
  induction rs with
  | nil => rfl
  | cons row rs ih =>
      obtain ⟨row, number⟩ := row
      cases row with
      | nothing => exact ih
      | label name => exact ih
      | command text => exact congrArg ((text, g number) :: ·) ih

theorem labels_renumber (g : Nat → Nat) (rs : List (Row × Nat)) :
    labels (renumber g rs) = labels rs := by
  rw [labels, renumber, List.filterMap_map, labels]
  rfl

theorem bareCommands_renumber (g : Nat → Nat) (rs : List (Row × Nat)) :
    bareCommands (renumber g rs) = (bareCommands rs).map fun (text, number) => (text, g number) := by
  simp only [bareCommands, commands_renumber, List.map_map, Function.comp_def]

theorem unknownJumps_renumber (g : Nat → Nat) (names : List (List Char)) (given : List (List Char × Nat)) :
    unknownJumps names (given.map fun (text, number) => (text, g number)) =
      (unknownJumps names given).map (Finding.renumbered g) := by
  simp [unknownJumps, List.flatMap_map, List.map_flatMap, Finding.renumbered, Function.comp_def]

theorem lastCommand_renumber (g : Nat → Nat) (given : List (List Char × Nat)) :
    lastCommand (given.map fun (text, number) => (text, g number)) =
      (lastCommand given).map (Finding.renumbered g) := by
  rw [lastCommand, List.getLast?_map, lastCommand]
  rcases given.getLast? with _ | ⟨text, number⟩
  · rfl
  · simp only [Option.map_some]
    split <;> rfl

theorem scriptFindings_renumber (g : Nat → Nat) (rs : List (Row × Nat)) :
    scriptFindings (renumber g rs) = (scriptFindings rs).map (Finding.renumbered g) := by
  simp only [scriptFindings, bareCommands_renumber, blocks_renumber, labels_renumber, unknownJumps_renumber,
    commands_renumber, lastCommand_renumber, List.map_append]
  split <;> rfl

theorem renumber_cons (g : Nat → Nat) (row : Row) (number : Nat) (rs : List (Row × Nat)) :
    renumber g ((row, number) :: rs) = (row, g number) :: renumber g rs := rfl

theorem renumber_append (g : Nat → Nat) (xs ys : List (Row × Nat)) :
    renumber g (xs ++ ys) = renumber g xs ++ renumber g ys :=
  List.map_append

/-! ## A line more -/

/-- Where a line goes when one is put in that gets the number `number`. -/
def raised (number n : Nat) : Nat :=
  if n < number then n else n + 1

theorem renumber_numbered_before (h : start + ls.length ≤ number) :
    renumber (raised number) (numbered start ls) = numbered start ls := by
  induction ls generalizing start with
  | nil => rfl
  | cons line ls ih =>
      rw [List.length_cons] at h
      have hstart : raised number start = start := if_pos (by omega)
      rw [numbered_cons, renumber_cons, hstart, ih (by omega)]

theorem renumber_numbered_behind (h : number ≤ start) :
    renumber (raised number) (numbered start ls) = numbered (start + 1) ls := by
  induction ls generalizing start with
  | nil => rfl
  | cons line ls ih =>
      have hstart : raised number start = start + 1 := if_neg (by omega)
      rw [numbered_cons, renumber_cons, hstart, ih (by omega), numbered_cons]

/-- A line that is put in becomes a row of its own, and the numbers behind it are raised by one. -/
theorem rows_insert (hls : ls ≠ []) (hfeed : ∀ line ∈ ls, '\n' ∉ line) (hrest : rest ≠ [])
    (hline : '\n' ∉ line) :
    let number := ls.length + 1
    let behind := numbered number (Text.lines rest).dropLast
    ∃ before, rows (Text.unlines ls ++ rest) = before ++ behind ∧
      rows (Text.unlines ls ++ (line ++ '\n' :: rest)) =
        renumber (raised number) before ++ (Row.ofLine line, number) ::
          renumber (raised number) behind := by
  intro number behind
  obtain ⟨first, body, rfl⟩ := List.exists_cons_of_ne_nil hls
  have hlonger : ∀ other ∈ first :: (body ++ [line]), '\n' ∉ other := by
    rw [← List.cons_append]
    exact List.forall_mem_append.2 ⟨hfeed, List.forall_mem_singleton.2 hline⟩
  have htext : Text.unlines (first :: body) ++ (line ++ '\n' :: rest) =
      Text.unlines (first :: (body ++ [line])) ++ rest := by
    simp
  have hnumber : 2 + body.length = number := by
    simp only [number, List.length_cons]
    omega
  have hbehind : renumber (raised number) behind = numbered (number + 1) (Text.lines rest).dropLast :=
    renumber_numbered_behind (Nat.le_refl _)
  refine ⟨numbered 2 body, ?_, ?_⟩
  · rw [rows_eq_numbered, innerLines_append hfeed hrest, numbered_append, hnumber]
  · rw [htext, rows_eq_numbered, innerLines_append hlonger hrest, List.append_assoc, numbered_append, hnumber,
      List.singleton_append, numbered_cons, renumber_numbered_before (Nat.le_of_eq hnumber), hbehind]

theorem scriptFindings_insert_nothing (number : Nat) (xs ys : List (Row × Nat)) :
    scriptFindings (xs ++ (.nothing, number) :: ys) = scriptFindings (xs ++ ys) := by
  have hcommands : commands (xs ++ (.nothing, number) :: ys) = commands (xs ++ ys) := by
    simp [commands]
  have hlabels : labels (xs ++ (.nothing, number) :: ys) = labels (xs ++ ys) := by
    simp [labels]
  rw [scriptFindings, bareCommands, hcommands, hlabels]
  rfl

end Lint

end SelfBuild
