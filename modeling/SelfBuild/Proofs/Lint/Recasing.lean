import SelfBuild.Proofs.Lint.Quoting
import SelfBuild.Proofs.Lint.Script
import SelfBuild.Proofs.Text.Letters

/-!
# Scripts in small letters

The batch grammar does not tell ASCII capitals from small letters.  Each part of the check finds the same in a
text and in its copy in small letters, or, where it gives back a part of the text, the copy of that part.
-/

namespace SelfBuild

namespace Lint

variable {c d : Char} {s : List Char}

/-! ## The parts of a line -/

theorem Quoting.next_toLower (quoting : Quoting) (c : Char) :
    quoting.next c.toLower = quoting.next c := by
  have hcaret : c.toLower = '^' ↔ c = '^' := Text.toLower_eq_iff (by decide)
  have hquote : c.toLower = '"' ↔ c = '"' := Text.toLower_eq_iff (by decide)
  cases quoting <;> simp only [Quoting.next, hcaret, hquote]

theorem Quoting.keeps_toLower (quoting : Quoting) (c : Char) :
    quoting.keeps c.toLower = quoting.keeps c := by
  have hcaret : c.toLower = '^' ↔ c = '^' := Text.toLower_eq_iff (by decide)
  have hquote : c.toLower = '"' ↔ c = '"' := Text.toLower_eq_iff (by decide)
  cases quoting <;> simp only [Quoting.keeps, ne_eq, hcaret, hquote]

theorem bareIn_map_toLower (quoting : Quoting) (s : List Char) :
    bareIn quoting (s.map Char.toLower) = (bareIn quoting s).map Char.toLower := by
  induction s generalizing quoting with
  | nil => simp [bareIn_nil]
  | cons c s ih =>
      rw [List.map_cons, bareIn_cons, bareIn_cons, ih, Quoting.next_toLower, List.map_append,
        List.filter_singleton, List.filter_singleton, Quoting.keeps_toLower]
      cases quoting.keeps c <;> rfl

theorem bare_map_toLower (s : List Char) : bare (s.map Char.toLower) = (bare s).map Char.toLower :=
  bareIn_map_toLower .outside s

theorem parentheses_map_toLower (depth : Nat) (s : List Char) :
    parentheses depth (s.map Char.toLower) = parentheses depth s := by
  have hopen (c : Char) : c.toLower = '(' ↔ c = '(' := Text.toLower_eq_iff (by decide)
  have hclose (c : Char) : c.toLower = ')' ↔ c = ')' := Text.toLower_eq_iff (by decide)
  induction s generalizing depth with
  | nil => rfl
  | cons c s ih =>
      rw [List.map_cons, parentheses.eq_def, parentheses.eq_def depth (c :: s)]
      simp only [hopen, hclose, ih]

theorem startsWithWord_map_toLower (word s : List Char) :
    startsWithWord word (s.map Char.toLower) = startsWithWord word s := by
  have hfun : Char.toLower ∘ Char.toLower = Char.toLower := funext Text.toLower_toLower
  rw [startsWithWord, ← List.map_take, List.map_map, hfun, startsWithWord]

/-- A text without the sign that keeps a command from being shown. -/
def unmarked (s : List Char) : List Char :=
  match s with
  | '@' :: rest => rest
  | _ => s

/-- Whether the word of an echo ends in front of a text. -/
def endsEcho (s : List Char) : Bool :=
  match s with
  | [] => true
  | c :: _ => Text.isBlank c || c = '.' || c = ':'

theorem isEcho_eq (s : List Char) :
    isEcho s = (startsWithWord "echo".toList (unmarked s) && endsEcho ((unmarked s).drop 4)) := rfl

theorem unmarked_map_toLower (s : List Char) :
    unmarked (s.map Char.toLower) = (unmarked s).map Char.toLower := by
  cases s with
  | nil => rfl
  | cons c rest =>
      have hat : c.toLower = '@' ↔ c = '@' := Text.toLower_eq_iff (by decide)
      by_cases hc : c = '@'
      · subst hc
        rfl
      · simp [unmarked, hat, hc]

theorem isEcho_map_toLower (s : List Char) : isEcho (s.map Char.toLower) = isEcho s := by
  have hdot (c : Char) : c.toLower = '.' ↔ c = '.' := Text.toLower_eq_iff (by decide)
  have hcolon (c : Char) : c.toLower = ':' ↔ c = ':' := Text.toLower_eq_iff (by decide)
  have hends (s : List Char) : endsEcho (s.map Char.toLower) = endsEcho s := by
    cases s with
    | nil => rfl
    | cons c rest => simp only [List.map_cons, endsEcho, Text.isBlank_toLower, hdot, hcolon]
  rw [isEcho_eq, isEcho_eq, unmarked_map_toLower, startsWithWord_map_toLower, ← List.map_drop, hends]

/-- The destination in a run of characters behind the word of a jump. -/
def withoutColon (run : List Char) : List Char :=
  match run with
  | ':' :: c :: rest => c :: rest
  | _ => run

theorem jumpAt?_eq (s : List Char) :
    jumpAt? s =
      let gap := (s.drop 4).takeWhile Text.isBlank
      let run := ((s.drop 4).dropWhile Text.isBlank).takeWhile fun c => !Text.isBlank c
      if startsWithWord "goto".toList s then
        if gap = [] || run = [] then none else some (withoutColon run, 4 + gap.length + run.length)
      else none := rfl

theorem withoutColon_map_toLower (run : List Char) :
    withoutColon (run.map Char.toLower) = (withoutColon run).map Char.toLower := by
  have hcolon (c : Char) : c.toLower = ':' ↔ c = ':' := Text.toLower_eq_iff (by decide)
  rcases run with _ | ⟨first, _ | ⟨second, rest⟩⟩
  · rfl
  · simp [withoutColon]
  · by_cases hfirst : first = ':'
    · subst hfirst
      rfl
    · simp [withoutColon, hcolon, hfirst]

/-- A jump and its length, with the destination in small letters. -/
def lowerTarget (found : List Char × Nat) : List Char × Nat :=
  (found.1.map Char.toLower, found.2)

theorem jumpAt?_map_toLower (s : List Char) :
    jumpAt? (s.map Char.toLower) = (jumpAt? s).map lowerTarget := by
  have hgap : Text.isBlank ∘ Char.toLower = Text.isBlank := funext Text.isBlank_toLower
  have hrun : (fun c => !Text.isBlank c) ∘ Char.toLower = fun c => !Text.isBlank c :=
    funext fun c => congrArg not (Text.isBlank_toLower c)
  rw [jumpAt?_eq, jumpAt?_eq]
  simp only [startsWithWord_map_toLower, ← List.map_drop, List.takeWhile_map, List.dropWhile_map, hgap, hrun,
    List.map_eq_nil_iff, List.length_map, withoutColon_map_toLower]
  split
  · split <;> rfl
  · rfl

theorem jumpsFrom_map_toLower (inWord : Bool) (skip : Nat) (s : List Char) :
    jumpsFrom inWord skip (s.map Char.toLower) =
      (jumpsFrom inWord skip s).map (List.map Char.toLower) := by
  fun_induction jumpsFrom inWord skip s with
  | case1 => rw [List.map_nil, jumpsFrom]; rfl
  | case2 inWord skip c rest ih => rw [List.map_cons, jumpsFrom, Text.isWord_toLower, ih]
  | case3 inWord c rest target length hjump ih =>
      have hfound := jumpAt?_map_toLower (c :: rest)
      cases inWord with
      | true => cases hjump
      | false =>
          rw [if_neg Bool.false_ne_true] at hjump
          rw [hjump, List.map_cons] at hfound
          rw [List.map_cons, jumpsFrom, if_neg Bool.false_ne_true, hfound]
          simp only [Option.map_some, lowerTarget, Text.isWord_toLower, ih, List.map_cons]
  | case4 inWord c rest hjump ih =>
      have hnone : (if inWord = true then none else jumpAt? ((c :: rest).map Char.toLower)) = none := by
        rw [jumpAt?_map_toLower]
        split
        · rfl
        · rename_i hword
          rw [if_neg hword] at hjump
          rw [hjump]
          rfl
      rw [List.map_cons] at hnone ⊢
      rw [jumpsFrom, hnone]
      simp only [Text.isWord_toLower, ih]

theorem jumps_map_toLower (s : List Char) : jumps (s.map Char.toLower) = jumps s := by
  have hfun : Text.lower ∘ List.map Char.toLower = Text.lower := funext Text.lower_map_toLower
  rw [jumps, jumpsFrom_map_toLower, List.map_map, hfun, jumps]

theorem leaves_map_toLower (s : List Char) : leaves (s.map Char.toLower) = leaves s := by
  rw [leaves, Text.lower_map_toLower, leaves]

/-! ## Rows -/

/-- A row with its command in small letters; labels are kept in lower case anyway. -/
def Row.lowered : Row → Row
  | .command text => .command (text.map Char.toLower)
  | row => row

theorem isRemark_map_toLower (s : List Char) : isRemark (s.map Char.toLower) = isRemark s := by
  have hcolon (c : Char) : ':' = c.toLower ↔ ':' = c :=
    eq_comm.trans ((Text.toLower_eq_iff (by decide)).trans eq_comm)
  have hcolons : "::".toList.isPrefixOf (s.map Char.toLower) = "::".toList.isPrefixOf s := by
    rw [Bool.eq_iff_iff, List.isPrefixOf_iff_prefix, List.isPrefixOf_iff_prefix]
    rcases s with _ | ⟨first, _ | ⟨second, rest⟩⟩ <;>
      simp [List.cons_prefix_cons, hcolon]
  rw [isRemark, hcolons, Text.lower_map_toLower, isRemark]

theorem ofLine_map_toLower (line : List Char) :
    Row.ofLine (line.map Char.toLower) = (Row.ofLine line).lowered := by
  unfold Row.ofLine
  rw [Text.trim_map_toLower]
  generalize Text.trim line = text
  dsimp only
  rw [isRemark_map_toLower]
  cases text with
  | nil => rfl
  | cons c name =>
      have hcolon : c.toLower = ':' ↔ c = ':' := Text.toLower_eq_iff (by decide)
      cases isRemark (c :: name) with
      | true => rfl
      | false =>
          by_cases hc : c = ':'
          · subst hc
            simp [Row.lowered, Text.firstWord_map_toLower, Text.lower_map_toLower]
          · simp [Row.lowered, hcolon, hc]

/-! ## Scripts -/

/-- Commands in small letters, under the same numbers. -/
def lowerAll (given : List (List Char × Nat)) : List (List Char × Nat) :=
  given.map fun (text, number) => (text.map Char.toLower, number)

def Row.loweredAll (rs : List (Row × Nat)) : List (Row × Nat) :=
  rs.map fun (row, number) => (row.lowered, number)

theorem commands_lowered (rs : List (Row × Nat)) :
    commands (Row.loweredAll rs) = lowerAll (commands rs) := by
  induction rs with
  | nil => rfl
  | cons row rs ih =>
      obtain ⟨row, number⟩ := row
      cases row with
      | nothing => exact ih
      | label name => exact ih
      | command text => exact congrArg ((text.map Char.toLower, number) :: ·) ih

theorem labels_lowered (rs : List (Row × Nat)) : labels (Row.loweredAll rs) = labels rs := by
  rw [labels, Row.loweredAll, List.filterMap_map, labels]
  congr 2
  funext ⟨row, number⟩
  cases row <;> rfl

theorem bareCommands_lowered (rs : List (Row × Nat)) :
    bareCommands (Row.loweredAll rs) = lowerAll (bareCommands rs) := by
  simp only [bareCommands, commands_lowered, lowerAll, List.map_map, Function.comp_def, bare_map_toLower]

theorem blocks_lowerAll (depth : Nat) (given : List (List Char × Nat)) :
    blocks depth (lowerAll given) = blocks depth given := by
  have hclose (s : List Char) : (s.map Char.toLower).contains ')' = s.contains ')' := by
    have hiff (c : Char) : c.toLower = ')' ↔ c = ')' := Text.toLower_eq_iff (by decide)
    simp [hiff]
  induction given generalizing depth with
  | nil => rfl
  | cons first rest ih =>
      obtain ⟨text, number⟩ := first
      have hcons : lowerAll ((text, number) :: rest) =
          (text.map Char.toLower, number) :: lowerAll rest := rfl
      simp only [hcons, blocks, isEcho_map_toLower, hclose, parentheses_map_toLower, ih]

theorem unknownJumps_lowerAll (names : List (List Char)) (given : List (List Char × Nat)) :
    unknownJumps names (lowerAll given) = unknownJumps names given := by
  simp only [unknownJumps, lowerAll, List.flatMap_map, jumps_map_toLower]

theorem lastCommand_lowerAll (given : List (List Char × Nat)) :
    lastCommand (lowerAll given) = lastCommand given := by
  rw [lastCommand, lowerAll, List.getLast?_map, lastCommand]
  cases given.getLast? with
  | none => rfl
  | some last => simp only [Option.map_some, leaves_map_toLower]

theorem scriptFindings_lowered (rs : List (Row × Nat)) :
    scriptFindings (Row.loweredAll rs) = scriptFindings rs := by
  rw [scriptFindings, bareCommands_lowered, blocks_lowerAll, unknownJumps_lowerAll, labels_lowered,
    commands_lowered, lastCommand_lowerAll, scriptFindings]

end Lint

end SelfBuild
