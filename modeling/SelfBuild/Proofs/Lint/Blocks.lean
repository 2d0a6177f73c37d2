import SelfBuild.Proofs.Lint.Matching
import SelfBuild.Proofs.Lint.Script

/-!
# Blocks are matched

The parentheses outside quotes of all commands but echoes make up one word, whatever lines they stand on.
The findings on blocks say exactly what is left over in that word when its parentheses are matched, and
which echoes would close a block that is still open where they stand.
-/

namespace SelfBuild

namespace Lint

variable {depth : Nat} {text : List Char} {number : Nat} {rs : List (Row × Nat)}

/-- The findings of the batch grammar with a code. -/
def reports (code : String) (s : List Char) : List Finding :=
  (batch s).filter fun finding => finding.cause.code = code

def parenthesis? : Char → Option DyckStep
  | '(' => some .U
  | ')' => some .D
  | _ => none

/-- The parentheses of a row that open and close blocks. -/
def Row.word : Row → List DyckStep
  | .command text => if isEcho (bare text) then [] else (bare text).filterMap parenthesis?
  | _ => []

/-- The parentheses of some rows, each with the line it stands on. -/
def marks (rs : List (Row × Nat)) : List (DyckStep × Nat) :=
  rs.flatMap fun (row, number) => row.word.map fun c => (c, number)

def word (rs : List (Row × Nat)) : List DyckStep :=
  (marks rs).map Prod.fst

/-- Whether a row is an echo that closes a block by what it says: a block of the rows before it is open
there, and a closing parenthesis stands in it. -/
def endsBlock (rs : List (Row × Nat)) (k : Nat) : Bool :=
  match rs[k]? with
  | some (.command text, _) =>
      isEcho (bare text) && (bare text).contains ')' && unmatchedOpenings (word (rs.take k)) ≠ []
  | _ => false

/-! ## One row -/

/-- The lines of the closing parentheses that meet the depth zero. -/
def strayLines : Nat → List (DyckStep × Nat) → List Nat
  | _, [] => []
  | depth, (.U, _) :: rest => strayLines (depth + 1) rest
  | 0, (.D, number) :: rest => number :: strayLines 0 rest
  | depth + 1, (.D, _) :: rest => strayLines depth rest

theorem strayLines_append (depth : Nat) (xs ys : List (DyckStep × Nat)) :
    strayLines depth (xs ++ ys) =
      strayLines depth xs ++ strayLines ((xs.map Prod.fst).foldl climb depth) ys := by
  fun_induction strayLines depth xs with
  | case1 => rfl
  | case2 depth number rest ih => exact ih
  | case3 number rest ih => exact congrArg (number :: ·) ih
  | case4 depth number rest ih => exact ih

/-- A text's parentheses, counted and as a word. -/
theorem parentheses_eq (depth number : Nat) (text : List Char) :
    List.replicate (parentheses depth text).1 number =
        strayLines depth ((text.filterMap parenthesis?).map fun c => (c, number)) ∧
      (parentheses depth text).2 = (text.filterMap parenthesis?).foldl climb depth := by
  induction text generalizing depth with
  | nil => exact ⟨rfl, rfl⟩
  | cons c text ih =>
      by_cases hopen : c = '('
      · subst hopen
        exact ih (depth + 1)
      · by_cases hclose : c = ')'
        · subst hclose
          cases depth with
          | zero =>
              obtain ⟨hstray, hdepth⟩ := ih 0
              exact ⟨congrArg (number :: ·) hstray, hdepth⟩
          | succ depth => exact ih depth
        · have hnone : parenthesis? c = none := by
            unfold parenthesis?
            split <;> simp_all
          rw [List.filterMap_cons_none hnone]
          simpa [parentheses, hopen, hclose] using ih depth

/-- The findings on the blocks of one row, given the depth before it. -/
def Row.findings (depth number : Nat) : Row → List Finding
  | .command text =>
      if isEcho (bare text) then
        if 0 < depth && (bare text).contains ')' then [⟨.echoEndsBlock, some number⟩] else []
      else List.replicate (parentheses depth (bare text)).1 ⟨.strayParenthesis, some number⟩
  | _ => []

/-- One row adds its findings and hands on the depth behind its word. -/
theorem blocks_step (depth number : Nat) (row : Row) (rs : List (Row × Nat)) :
    blocks depth (bareCommands ((row, number) :: rs)) =
      let rest := blocks (row.word.foldl climb depth) (bareCommands rs)
      (row.findings depth number ++ rest.1, rest.2) := by
  cases row with
  | nothing => rfl
  | label name => rfl
  | command text =>
      have hcons : bareCommands ((.command text, number) :: rs) =
          (bare text, number) :: bareCommands rs := rfl
      simp only [hcons, blocks, Row.findings, Row.word]
      by_cases hecho : isEcho (bare text) = true
      · simp only [hecho, if_true, List.foldl_nil]
        split <;> rfl
      · have hdepth := (parentheses_eq depth number (bare text)).2
        simp only [hecho, Bool.false_eq_true, if_false, hdepth]

theorem Row.findings_stray (depth number : Nat) (row : Row) :
    (row.findings depth number).filter (·.cause.code = "EXF-BAT-0001") =
      (strayLines depth (row.word.map fun c => (c, number))).map fun line =>
        ⟨.strayParenthesis, some line⟩ := by
  cases row with
  | nothing => rfl
  | label name => rfl
  | command text =>
      simp only [Row.findings, Row.word]
      split
      · split <;> rfl
      · rw [← (parentheses_eq depth number (bare text)).1, List.map_replicate,
          List.filter_eq_self.2]
        intro finding hfinding
        rw [List.eq_of_mem_replicate hfinding]
        rfl

theorem Row.findings_echo (depth number : Nat) (row : Row) :
    (row.findings depth number).filter (·.cause.code = "EXF-BAT-0002") =
      match row with
      | .command text =>
          if isEcho (bare text) && (bare text).contains ')' && decide (0 < depth) then
            [⟨.echoEndsBlock, some number⟩]
          else []
      | _ => [] := by
  cases row with
  | nothing => rfl
  | label name => rfl
  | command text =>
      simp only [Row.findings]
      cases isEcho (bare text) with
      | false =>
          rw [List.filter_eq_nil_iff.2]
          · rfl
          · intro finding hfinding
            rw [List.eq_of_mem_replicate hfinding]
            simp [Cause.code]
      | true => cases (bare text).contains ')' <;> by_cases hdepth : 0 < depth <;> simp [hdepth, Cause.code]

theorem Row.code_of_mem_findings {row : Row} {finding : Finding}
    (h : finding ∈ row.findings depth number) :
    finding.cause.code = "EXF-BAT-0001" ∨ finding.cause.code = "EXF-BAT-0002" := by
  cases row with
  | nothing => exact absurd h List.not_mem_nil
  | label name => exact absurd h List.not_mem_nil
  | command text =>
      simp only [Row.findings] at h
      split at h
      · split at h
        · rw [List.mem_singleton.1 h]
          exact .inr rfl
        · exact absurd h List.not_mem_nil
      · rw [List.eq_of_mem_replicate h]
        exact .inl rfl

/-! ## All rows -/

theorem marks_cons (row : Row) (number : Nat) (rs : List (Row × Nat)) :
    marks ((row, number) :: rs) = (row.word.map fun c => (c, number)) ++ marks rs := rfl

theorem word_cons (row : Row) (number : Nat) (rs : List (Row × Nat)) :
    word ((row, number) :: rs) = row.word ++ word rs := by
  simp [word, marks_cons, Function.comp_def]

/-- The depth that blocks are followed with is the one of the word. -/
theorem blocks_snd (depth : Nat) (rs : List (Row × Nat)) :
    (blocks depth (bareCommands rs)).2 = (word rs).foldl climb depth := by
  induction rs generalizing depth with
  | nil => rfl
  | cons row rs ih => rw [blocks_step, word_cons, List.foldl_append, ← ih]

theorem blocks_stray (depth : Nat) (rs : List (Row × Nat)) :
    (blocks depth (bareCommands rs)).1.filter (·.cause.code = "EXF-BAT-0001") =
      (strayLines depth (marks rs)).map fun line => ⟨.strayParenthesis, some line⟩ := by
  induction rs generalizing depth with
  | nil => rfl
  | cons row rs ih =>
      obtain ⟨row, number⟩ := row
      rw [blocks_step, marks_cons, strayLines_append]
      dsimp only
      rw [List.filter_append, row.findings_stray, ih, List.map_append, List.map_map]
      simp [Function.comp_def]

theorem blocks_concat (depth number : Nat) (row : Row) (rs : List (Row × Nat)) :
    (blocks depth (bareCommands (rs ++ [(row, number)]))).1 =
      (blocks depth (bareCommands rs)).1 ++ row.findings ((word rs).foldl climb depth) number := by
  induction rs generalizing depth with
  | nil =>
      rw [List.nil_append, blocks_step]
      exact List.append_nil _
  | cons first rs ih =>
      obtain ⟨first, line⟩ := first
      rw [List.cons_append, blocks_step, blocks_step, word_cons, List.foldl_append]
      dsimp only
      rw [ih, List.append_assoc]

theorem endsBlock_concat_of_lt {row : Row × Nat} {k : Nat} (hk : k < rs.length) :
    endsBlock (rs ++ [row]) k = endsBlock rs k := by
  unfold endsBlock
  rw [List.getElem?_append_left hk, List.take_append_of_le_length hk.le]

theorem endsBlock_concat_length (row : Row) (number : Nat) (rs : List (Row × Nat)) :
    endsBlock (rs ++ [(row, number)]) rs.length =
      match row with
      | .command text =>
          isEcho (bare text) && (bare text).contains ')' && decide (0 < height (word rs))
      | _ => false := by
  unfold endsBlock
  rw [List.getElem?_concat_length, List.take_left, ← length_unmatchedOpenings]
  cases row with
  | nothing => rfl
  | label name => rfl
  | command text => simp [List.length_pos_iff]

theorem blocks_echo (rs : List (Row × Nat)) :
    (blocks 0 (bareCommands rs)).1.filter (·.cause.code = "EXF-BAT-0002") =
      ((List.range rs.length).filter (endsBlock rs)).map fun k =>
        ⟨.echoEndsBlock, rs[k]?.map Prod.snd⟩ := by
  induction rs using List.reverseRecOn with
  | nil => rfl
  | append_singleton rs row ih =>
      obtain ⟨row, number⟩ := row
      have hfront : ((List.range rs.length).filter (endsBlock rs)).map
            (fun k => (⟨.echoEndsBlock, (rs ++ [(row, number)])[k]?.map Prod.snd⟩ : Finding)) =
          ((List.range rs.length).filter (endsBlock rs)).map fun k =>
            ⟨.echoEndsBlock, rs[k]?.map Prod.snd⟩ := by
        refine List.map_congr_left fun k hk => ?_
        rw [List.getElem?_append_left (List.mem_range.1 (List.mem_filter.1 hk).1)]
      have hrange := filter_range_succ (n := rs.length)
        (p := fun k => endsBlock (rs ++ [(row, number)]) k = true) (q := fun k => endsBlock rs k = true)
        fun k hk => by rw [endsBlock_concat_of_lt hk]
      simp only [Bool.decide_eq_true] at hrange
      rw [List.length_append, List.length_singleton, hrange, List.map_append, hfront, blocks_concat,
        List.filter_append, ih, row.findings_echo, endsBlock_concat_length]
      congr 1
      cases row with
      | nothing => rfl
      | label name => rfl
      | command text =>
          simp only [height]
          split <;> simp_all

/-- The lines of the closing parentheses that meet the depth zero are those of the ones without a
partner. -/
theorem strayLines_eq (xs : List (DyckStep × Nat)) :
    (strayLines 0 xs).map some =
      (unmatchedClosings (xs.map Prod.fst)).map fun j => xs[j]?.map Prod.snd := by
  induction xs using List.reverseRecOn with
  | nil => rfl
  | append_singleton xs x ih =>
      obtain ⟨c, number⟩ := x
      have hfront : (unmatchedClosings (xs.map Prod.fst)).map
            (fun j => (xs ++ [(c, number)])[j]?.map Prod.snd) =
          (unmatchedClosings (xs.map Prod.fst)).map fun j => xs[j]?.map Prod.snd := by
        refine List.map_congr_left fun j hj => ?_
        have hlt : j < xs.length := by
          simpa using List.mem_range.1 (List.mem_filter.1 hj).1
        rw [List.getElem?_append_left hlt]
      rw [strayLines_append, List.map_append, List.map_append, List.map_singleton, ih, ← hfront]
      cases c with
      | U => rw [unmatchedClosings_concat_open]; simp [strayLines]
      | D =>
          rw [unmatchedClosings_concat_close, List.map_append, height]
          congr 1
          cases (xs.map Prod.fst).foldl climb 0 <;> simp [strayLines]

/-! ## All findings -/

theorem code_of_mem_unknownJumps {names : List (List Char)} {given : List (List Char × Nat)}
    {finding : Finding} (h : finding ∈ unknownJumps names given) :
    finding.cause.code = "EXF-BAT-0003" := by
  obtain ⟨⟨text, number⟩, -, hfinding⟩ := List.mem_flatMap.1 h
  obtain ⟨target, -, rfl⟩ := List.mem_map.1 hfinding
  rfl

theorem code_of_mem_lastCommand {given : List (List Char × Nat)} {finding : Finding}
    (h : finding ∈ lastCommand given) : finding.cause.code = "EXF-BAT-0004" := by
  unfold lastCommand at h
  split at h
  · rw [List.mem_singleton.1 h]
    rfl
  · split at h
    · exact absurd h List.not_mem_nil
    · rw [List.mem_singleton.1 h]
      rfl

/-- Findings of one part of the check do not have the code of another. -/
theorem filter_code_eq_nil {findings : List Finding} {code other : String} (hne : other ≠ code)
    (h : ∀ finding ∈ findings, finding.cause.code = other) :
    findings.filter (·.cause.code = code) = [] := by
  rw [List.filter_eq_nil_iff]
  intro finding hfinding
  rw [h finding hfinding]
  simpa using hne

theorem filter_blocks_eq_nil (code : String) (hstray : code ≠ "EXF-BAT-0001")
    (hecho : code ≠ "EXF-BAT-0002") (depth : Nat) (rs : List (Row × Nat)) :
    (blocks depth (bareCommands rs)).1.filter (·.cause.code = code) = [] := by
  induction rs generalizing depth with
  | nil => rfl
  | cons row rs ih =>
      obtain ⟨row, number⟩ := row
      rw [blocks_step]
      dsimp only
      rw [List.filter_append, ih, List.append_nil, List.filter_eq_nil_iff]
      intro finding hfinding
      rcases Row.code_of_mem_findings hfinding with hcode | hcode <;> simp [hcode, hstray.symm, hecho.symm]

theorem reports_eq (code : String) (s : List Char) :
    reports code s =
      (blocks 0 (bareCommands (rows s))).1.filter (·.cause.code = code) ++
        (if (blocks 0 (bareCommands (rows s))).2 = 0 then []
          else [⟨.openBlocks (blocks 0 (bareCommands (rows s))).2, none⟩]).filter (·.cause.code = code) ++
        (unknownJumps (labels (rows s)) (bareCommands (rows s))).filter (·.cause.code = code) ++
        (lastCommand (commands (rows s))).filter (·.cause.code = code) := by
  rw [reports, batch_eq, List.filter_append, List.filter_append, List.filter_append]

/-- The findings on blocks come from the blocks alone. -/
theorem reports_of_blocks {code : String} (hcode : code ∈ ["EXF-BAT-0001", "EXF-BAT-0002"]) (s : List Char) :
    reports code s =
      (blocks 0 (bareCommands (rows s))).1.filter (·.cause.code = code) ++
        (if (blocks 0 (bareCommands (rows s))).2 = 0 then []
          else [⟨.openBlocks (blocks 0 (bareCommands (rows s))).2, none⟩]).filter (·.cause.code = code) := by
  have hall : ∀ code ∈ ["EXF-BAT-0001", "EXF-BAT-0002"],
      "EXF-BAT-0003" ≠ code ∧ "EXF-BAT-0004" ≠ code := by decide
  obtain ⟨hjumps, hlast⟩ := hall code hcode
  rw [reports_eq, filter_code_eq_nil hjumps fun _ => code_of_mem_unknownJumps,
    filter_code_eq_nil hlast fun _ => code_of_mem_lastCommand, List.append_nil, List.append_nil]

theorem reports_stray (s : List Char) :
    reports "EXF-BAT-0001" s =
      ((unmatchedClosings (word (rows s))).map fun j =>
          ⟨.strayParenthesis, (marks (rows s))[j]?.map Prod.snd⟩) ++
        if (unmatchedOpenings (word (rows s))).length = 0 then []
          else [⟨.openBlocks (unmatchedOpenings (word (rows s))).length, none⟩] := by
  have hstray := congrArg (List.map (Finding.mk .strayParenthesis)) (strayLines_eq (marks (rows s)))
  rw [List.map_map, List.map_map] at hstray
  have hdepth : (blocks 0 (bareCommands (rows s))).2 =
      (unmatchedOpenings (word (rows s))).length := by
    rw [blocks_snd, length_unmatchedOpenings, height]
  rw [reports_of_blocks (by decide), blocks_stray, hdepth]
  congr 1
  split <;> simp [Cause.code]

theorem reports_echo (s : List Char) :
    reports "EXF-BAT-0002" s =
      ((List.range (rows s).length).filter (endsBlock (rows s))).map fun k =>
        ⟨.echoEndsBlock, some (k + 2)⟩ := by
  have hnumbers : ((List.range (rows s).length).filter (endsBlock (rows s))).map
        (fun k => (⟨.echoEndsBlock, (rows s)[k]?.map Prod.snd⟩ : Finding)) =
      ((List.range (rows s).length).filter (endsBlock (rows s))).map fun k =>
        ⟨.echoEndsBlock, some (k + 2)⟩ := by
    refine List.map_congr_left fun k hk => ?_
    have hlt := List.mem_range.1 (List.mem_filter.1 hk).1
    obtain ⟨⟨row, number⟩, hrow⟩ : ∃ numbered, (rows s)[k]? = some numbered :=
      ⟨_, List.getElem?_eq_getElem hlt⟩
    rw [hrow, Option.map_some, number_of_rows hrow]
  rw [reports_of_blocks (by decide), blocks_echo, hnumbers]
  split <;> simp [Cause.code]

/-- The findings on blocks say what is left over once the parentheses of a script are matched: one for
each closing parenthesis without a partner, on the line it stands on, and one with the number of the
opening ones without a partner, if there are any.  So there is none exactly when the parentheses are
balanced.  The echoes that are found are those that would close a block which is open where they stand. -/
theorem blocks_matched (s : List Char) :
    (reports "EXF-BAT-0001" s = [] ↔ Paired (word (rows s))) ∧
      (reports "EXF-BAT-0001" s).filter (·.line.isSome) =
        (unmatchedClosings (word (rows s))).map (fun j =>
          ⟨.strayParenthesis, (marks (rows s))[j]?.map Prod.snd⟩) ∧
      (let left := (unmatchedOpenings (word (rows s))).length
      (reports "EXF-BAT-0001" s).filter (·.line.isNone) =
          (if left = 0 then [] else [⟨.openBlocks left, none⟩]) ∧
        (Cause.openBlocks left).message = s!"{left} batch block(s) left open.") ∧
      reports "EXF-BAT-0002" s =
        ((List.range (rows s).length).filter (endsBlock (rows s))).map fun k =>
          ⟨.echoEndsBlock, some (k + 2)⟩ := by
  let left := (unmatchedOpenings (word (rows s))).length
  have hall : reports "EXF-BAT-0001" s =
      ((unmatchedClosings (word (rows s))).map fun j =>
          ⟨.strayParenthesis, (marks (rows s))[j]?.map Prod.snd⟩) ++
        if left = 0 then [] else [⟨.openBlocks left, none⟩] := reports_stray s
  have hlines : ∀ finding ∈ (unmatchedClosings (word (rows s))).map (fun j =>
      (⟨.strayParenthesis, (marks (rows s))[j]?.map Prod.snd⟩ : Finding)),
      finding.line.isSome = true := by
    intro finding hfinding
    obtain ⟨j, hj, rfl⟩ := List.mem_map.1 hfinding
    have hlt : j < (marks (rows s)).length := by
      simpa [word] using List.mem_range.1 (List.mem_filter.1 hj).1
    simp [hlt]
  have hopen : (if left = 0 then [] else [(⟨.openBlocks left, none⟩ : Finding)]) = [] ↔
      unmatchedOpenings (word (rows s)) = [] := by
    simp [left]
  rw [hall, List.filter_append, List.filter_append, List.filter_eq_self.2 hlines]
  refine ⟨?_, ?_, ⟨?_, rfl⟩, reports_echo s⟩
  · rw [List.append_eq_nil_iff, List.map_eq_nil_iff, hopen, paired_iff_unmatched]
  · split <;> simp
  · rw [List.filter_eq_nil_iff.2, List.nil_append]
    · split <;> simp [left]
    · intro finding hfinding
      rw [← Option.not_isSome, hlines finding hfinding]
      decide

end Lint

end SelfBuild
