import SelfBuild.Lint.Batch

/-!
# Scripts row by row

The findings on blocks come from a depth that one row hands to the next, and line numbers only tag
them: a script has none exactly when every row takes the depth it is given.  Jumps are checked row
by row against all labels, and only the last command counts for how a script ends.
-/

namespace SelfBuild

namespace Lint

variable {depth next : Nat} {rs : List (Row × Nat)}

/-- The commands of some rows as the interpreter's syntax. -/
def bareCommands (rs : List (Row × Nat)) : List (List Char × Nat) :=
  (commands rs).map fun (text, number) => (bare text, number)

/-- The findings of the batch grammar on the rows of a script. -/
def scriptFindings (rs : List (Row × Nat)) : List Finding :=
  (blocks 0 (bareCommands rs)).1 ++
    (if (blocks 0 (bareCommands rs)).2 = 0 then []
      else [⟨.openBlocks (blocks 0 (bareCommands rs)).2, none⟩]) ++
    unknownJumps (labels rs) (bareCommands rs) ++ lastCommand (commands rs)

theorem batch_eq_scriptFindings (s : List Char) : batch s = scriptFindings (rows s) := rfl

theorem batch_eq (s : List Char) :
    batch s = (blocks 0 (bareCommands (rows s))).1 ++
      (if (blocks 0 (bareCommands (rows s))).2 = 0 then []
        else [⟨.openBlocks (blocks 0 (bareCommands (rows s))).2, none⟩]) ++
      unknownJumps (labels (rows s)) (bareCommands (rows s)) ++ lastCommand (commands (rows s)) :=
  rfl

theorem batch_eq_nil_iff (s : List Char) :
    batch s = [] ↔ blocks 0 (bareCommands (rows s)) = ([], 0) ∧
      unknownJumps (labels (rows s)) (bareCommands (rows s)) = [] ∧
        lastCommand (commands (rows s)) = [] := by
  rw [batch_eq, Prod.ext_iff]
  by_cases hdepth : (blocks 0 (bareCommands (rows s))).2 = 0 <;> simp [hdepth]

/-- The rows are the lines between the first and the last, and the first of them has the number two. -/
theorem rows_getElem? (s : List Char) (k : Nat) :
    (rows s)[k]? = ((Text.lines s).tail.dropLast[k]?).map fun line => (Row.ofLine line, k + 2) := by
  unfold rows
  cases Text.lines s with
  | nil => rfl
  | cons first rest => simp [bodyLines, Function.comp_def, Nat.add_comm]

theorem number_of_rows {s : List Char} {k number : Nat} {row : Row}
    (h : (rows s)[k]? = some (row, number)) : number = k + 2 := by
  rw [rows_getElem?] at h
  obtain ⟨line, -, hrow⟩ := Option.map_eq_some_iff.1 h
  exact (congrArg Prod.snd hrow).symm

/-- A number belongs to one row. -/
theorem row_eq_of_number_eq {s : List Char} {number : Nat} {row other : Row}
    (h : (row, number) ∈ rows s) (hother : (other, number) ∈ rows s) : row = other := by
  obtain ⟨k, hk⟩ := List.mem_iff_getElem?.1 h
  obtain ⟨i, hi⟩ := List.mem_iff_getElem?.1 hother
  have hsame : k = i := by
    have hnumber := number_of_rows hk
    have hagain := number_of_rows hi
    omega
  subst hsame
  exact congrArg Prod.fst (Option.some.inj (hk.symm.trans hi))

/-- Every row of a script comes from a line between the first and the last. -/
theorem rows_map_fst {first last : List Char} {inner : List (List Char)} {s : List Char}
    (h : Text.lines s = first :: (inner ++ [last])) :
    (rows s).map Prod.fst = inner.map Row.ofLine := by
  have hnumbered : ∀ (ls : List (List Char)) (start : Nat),
      ((ls.zipIdx start).map fun x => Row.ofLine x.1) = ls.map Row.ofLine := by
    intro ls
    induction ls with
    | nil => simp
    | cons line ls ih => simp [ih]
  rw [rows, h, bodyLines, List.dropLast_concat, List.map_map]
  exact hnumbered inner 2

theorem exists_rows_eq_concat {first line last : List Char} {front : List (List Char)}
    {s : List Char} (h : Text.lines s = first :: (front ++ [line] ++ [last])) :
    ∃ rs number, rows s = rs ++ [(Row.ofLine line, number)] := by
  refine ⟨(front.zipIdx 2).map fun x => (Row.ofLine x.1, x.2), 2 + front.length, ?_⟩
  rw [rows, h, bodyLines, List.dropLast_concat, List.zipIdx_append, List.map_append]
  simp

/-! ## Blocks -/

/-- The depth that a row hands on, if there is nothing amiss with its parentheses. -/
def advance (depth : Nat) : Row -> Option Nat
  | .command text =>
      if isEcho (bare text) then
        if 0 < depth && (bare text).contains ')' then none else some depth
      else
        match parentheses depth (bare text) with
        | (0, next) => some next
        | (_ + 1, _) => none
  | _ => some depth

theorem advance_echo {text : List Char} (h : isEcho (bare text) = true) :
    advance 0 (.command text) = some 0 := by
  simp [advance, h]

theorem advance_command {text : List Char} (hecho : isEcho (bare text) = false)
    (h : parentheses depth (bare text) = (0, next)) :
    advance depth (.command text) = some next := by
  simp [advance, hecho, h]

/-- The depth after several rows. -/
def depthAfter (depth : Nat) (rs : List Row) : Option Nat :=
  rs.foldlM advance depth

theorem depthAfter_append (depth : Nat) (xs ys : List Row) :
    depthAfter depth (xs ++ ys) = (depthAfter depth xs).bind fun next => depthAfter next ys :=
  List.foldlM_append

theorem depthAfter_cons (depth : Nat) (row : Row) (rs : List Row) :
    depthAfter depth (row :: rs) = (advance depth row).bind fun next => depthAfter next rs := by
  simp [depthAfter]

/-- One row: the findings on it are none exactly when it hands a depth on. -/
theorem blocks_cons (depth : Nat) (text : List Char) (number : Nat)
    (rest : List (List Char × Nat)) (next : Nat) :
    blocks depth ((bare text, number) :: rest) = ([], next) ↔
      ∃ middle, advance depth (.command text) = some middle ∧ blocks middle rest = ([], next) := by
  simp only [blocks, advance]
  by_cases hecho : isEcho (bare text) = true
  · rw [if_pos hecho, if_pos hecho]
    by_cases hclose : (0 < depth && (bare text).contains ')') = true
    · rw [if_pos hclose, if_pos hclose]
      simp
    · rw [if_neg hclose, if_neg hclose]
      simp [Prod.ext_iff]
  · rw [if_neg hecho, if_neg hecho]
    rcases parentheses depth (bare text) with ⟨_ | stray, middle⟩
    · simp [Prod.ext_iff]
    · simp [List.replicate_succ]

theorem blocks_eq_iff_depthAfter :
    blocks depth (bareCommands rs) = ([], next) ↔
      depthAfter depth (rs.map Prod.fst) = some next := by
  induction rs generalizing depth with
  | nil => simp [bareCommands, commands, blocks, depthAfter, eq_comm]
  | cons row rs ih =>
      obtain ⟨row, number⟩ := row
      rw [List.map_cons, depthAfter_cons]
      cases row with
      | nothing => exact ih
      | label name => exact ih
      | command text =>
          have hcons : bareCommands ((.command text, number) :: rs) =
              (bare text, number) :: bareCommands rs := rfl
          rw [hcons, blocks_cons, Option.bind_eq_some_iff]
          simp only [ih]

/-! ## Jumps -/

/-- The destinations of the jumps on a row. -/
def Row.jumps : Row -> List (List Char)
  | .command text => Lint.jumps (bare text)
  | _ => []

theorem jumps_command (text : List Char) : (Row.command text).jumps = jumps (bare text) := rfl

theorem unknownJumps_eq_nil_iff {names : List (List Char)} :
    unknownJumps names (bareCommands rs) = [] ↔
      ∀ row ∈ rs, ∀ target ∈ row.1.jumps, target ∈ names := by
  induction rs with
  | nil => simp [bareCommands, commands, unknownJumps]
  | cons row rs ih =>
      obtain ⟨row, number⟩ := row
      rw [List.forall_mem_cons, ← ih]
      cases row with
      | nothing => simp [Row.jumps, bareCommands, commands]
      | label name => simp [Row.jumps, bareCommands, commands]
      | command text =>
          have hcons : bareCommands ((.command text, number) :: rs) =
              (bare text, number) :: bareCommands rs := rfl
          rw [hcons]
          simp [unknownJumps, Row.jumps]

/-! ## The last command -/

theorem lastCommand_eq_nil_iff {given : List (List Char × Nat)} :
    lastCommand given = [] ↔
      ∃ text number, given.getLast? = some (text, number) ∧ leaves text = true := by
  unfold lastCommand
  rcases given.getLast? with _ | ⟨text, number⟩
  · simp
  · by_cases hleaves : leaves text = true <;> simp [hleaves]

end Lint

end SelfBuild
