import SelfBuild.Proofs.Lint.Blocks
import SelfBuild.Proofs.Lint.Quoting

/-!
# Destinations of jumps

The interpreter reads the destination of a jump up to a blank or a character that ends or joins commands;
the check reads on up to the next blank.  So it knows a label that the interpreter finds exactly where
nothing hangs on to the name: a closing parenthesis or a separator right behind it becomes part of the name
that is looked up.
-/

namespace SelfBuild

namespace Lint

variable {s text before word behind place : List Char} {number : Nat}

/-! ## What the interpreter reads -/

/-- A jump in a command: its word in any case, outside quotes and not escaped. -/
structure IsJump (text before word behind : List Char) : Prop where
  text_eq : text = before ++ word ++ behind
  word_eq : word.map Char.toLower = "goto".toList
  outside : quotingAfter before = .outside

/-- What stands behind the word of a jump, without blanks and a colon before the name. -/
def named (behind : List Char) : List Char :=
  match Text.trimLeft behind with
  | ':' :: rest => rest
  | rest => rest

def endsName (c : Char) : Bool :=
  Text.isBlank c || ['&', '|', '<', '>', '(', ')'].contains c

/-- The name up to a blank or a character that ends or joins commands. -/
def destination (behind : List Char) : List Char :=
  (named behind).takeWhile fun c => !endsName c

def behindName (behind : List Char) : List Char :=
  (named behind).dropWhile fun c => !endsName c

/-- What the check takes for the rest of the name: all that stands behind it up to the next blank. -/
def overhang (behind : List Char) : List Char :=
  (bare (behindName behind)).takeWhile fun c => !Text.isBlank c

/-- A name that is there and has no quotes or carets in it. -/
def Plain (name : List Char) : Prop :=
  name ≠ [] ∧ ∀ c ∈ name, c ≠ '^' ∧ c ≠ '"'

/-! ## What the check reads -/

/-- The places in a bare text where the check finds a jump, each as what stands from there on. -/
def jumpPlaces (inWord : Bool) : Nat → List Char → List (List Char)
  | _, [] => []
  | skip + 1, c :: rest => jumpPlaces (Text.isWord c) skip rest
  | 0, c :: rest =>
      match if inWord then none else jumpAt? (c :: rest) with
      | some (_, length) => (c :: rest) :: jumpPlaces (Text.isWord c) (length - 1) rest
      | none => jumpPlaces (Text.isWord c) 0 rest

def Row.jumpPlaces : Row → List (List Char)
  | .command text => Lint.jumpPlaces false 0 (bare text)
  | _ => []

/-- The label that the check looks up for the jump at a place. -/
def soughtAt (place : List Char) : List Char :=
  Text.lower (((jumpAt? place).map Prod.fst).getD [])

/-- The jumps to unknown labels, each with its line and its place on it. -/
def unknownPlaces (s : List Char) : List (Nat × List Char) :=
  (rows s).flatMap fun (row, number) =>
    (row.jumpPlaces.filter fun place => soughtAt place ∉ labels (rows s)).map fun place =>
      (number, place)

theorem map_lower_jumpsFrom (inWord : Bool) (skip : Nat) (s : List Char) :
    (jumpsFrom inWord skip s).map Text.lower = (jumpPlaces inWord skip s).map soughtAt := by
  fun_induction jumpsFrom inWord skip s with
  | case1 => simp [jumpPlaces]
  | case2 inWord skip c rest ih => exact ih
  | case3 inWord c rest target length hjump ih =>
      have hfound : jumpAt? (c :: rest) = some (target, length) := by
        cases inWord with
        | false => exact hjump
        | true => cases hjump
      have hsought : soughtAt (c :: rest) = Text.lower target := by simp [soughtAt, hfound]
      simp only [jumpPlaces, hjump, List.map_cons, hsought, ih]
  | case4 inWord c rest hjump ih =>
      simp only [jumpPlaces, hjump, ih]

theorem unknownJumps_eq (names : List (List Char)) (rs : List (Row × Nat)) :
    unknownJumps names (bareCommands rs) = rs.flatMap fun (row, number) =>
      (row.jumpPlaces.filter fun place => soughtAt place ∉ names).map fun place =>
        ⟨.unknownLabel (String.ofList (soughtAt place)), some number⟩ := by
  induction rs with
  | nil => rfl
  | cons row rs ih =>
      obtain ⟨row, number⟩ := row
      rw [List.flatMap_cons, ← ih]
      cases row with
      | nothing => rfl
      | label name => rfl
      | command text =>
          have hcons : bareCommands ((.command text, number) :: rs) =
              (bare text, number) :: bareCommands rs := rfl
          simp only [hcons, unknownJumps, List.flatMap_cons, jumps, map_lower_jumpsFrom,
            List.filter_map, List.map_map, Row.jumpPlaces]
          simp [Function.comp_def]

/-- Each jump to an unknown label has its finding, and there are no others. -/
theorem reports_unknown (s : List Char) :
    reports "EXF-BAT-0003" s = (unknownPlaces s).map fun (number, place) =>
      ⟨.unknownLabel (String.ofList (soughtAt place)), some number⟩ := by
  have hblocks := filter_blocks_eq_nil "EXF-BAT-0003" (by decide) (by decide) 0 (rows s)
  have hall : ∀ finding ∈ unknownJumps (labels (rows s)) (bareCommands (rows s)),
      decide (finding.cause.code = "EXF-BAT-0003") = true :=
    fun finding hfinding => decide_eq_true (code_of_mem_unknownJumps hfinding)
  rw [reports_eq, hblocks, List.filter_eq_self.2 hall,
    filter_code_eq_nil (by decide) fun _ => code_of_mem_lastCommand, List.append_nil, List.nil_append,
    unknownJumps_eq, unknownPlaces, List.map_flatMap]
  have hopen : (if (blocks 0 (bareCommands (rows s))).2 = 0 then []
      else [(⟨.openBlocks (blocks 0 (bareCommands (rows s))).2, none⟩ : Finding)]).filter
        (·.cause.code = "EXF-BAT-0003") = [] := by
    split <;> simp [Cause.code]
  rw [hopen, List.nil_append]
  simp [Function.comp_def]

theorem mem_unknownPlaces_iff {row : Row} (hrow : (row, number) ∈ rows s) :
    (number, place) ∈ unknownPlaces s ↔
      place ∈ row.jumpPlaces ∧ soughtAt place ∉ labels (rows s) := by
  unfold unknownPlaces
  rw [List.mem_flatMap]
  constructor
  · rintro ⟨⟨other, line⟩, hother, hmem⟩
    obtain ⟨found, hfound, hpair⟩ := List.mem_map.1 hmem
    simp only [Prod.mk.injEq] at hpair
    obtain ⟨rfl, rfl⟩ := hpair
    rw [row_eq_of_number_eq hrow hother]
    simpa using hfound
  · intro hplace
    exact ⟨(row, number), hrow, List.mem_map.2 ⟨place, by simpa using hplace, rfl⟩⟩

/-! ## The two readings of a destination -/

theorem exists_eq_append_named (behind : List Char) :
    ∃ gap colon, behind = gap ++ colon ++ named behind ∧ (∀ c ∈ gap, Text.isBlank c = true) ∧
      (colon = [] ∧ (named behind).head? ≠ some ':' ∨ colon = [':']) := by
  have hgap := (List.takeWhile_append_dropWhile (p := Text.isBlank) (l := behind)).symm
  have hblank : ∀ c ∈ behind.takeWhile Text.isBlank, Text.isBlank c = true :=
    fun c hc => List.mem_takeWhile_imp hc
  unfold named Text.trimLeft
  split
  · rename_i rest hrest
    refine ⟨_, [':'], ?_, hblank, .inr rfl⟩
    rwa [hrest, ← List.singleton_append, ← List.append_assoc] at hgap
  · rename_i hcolon
    refine ⟨_, [], by simp, hblank, .inl ⟨rfl, fun hhead => ?_⟩⟩
    obtain ⟨rest, hrest⟩ := List.head?_eq_some_iff.1 hhead
    exact hcolon rest hrest

theorem not_endsName_of_mem_destination {c : Char} (h : c ∈ destination behind) :
    endsName c = false := by
  have hkept := List.mem_takeWhile_imp h
  simpa using hkept

theorem isBlank_of_endsName_eq_false {c : Char} (h : endsName c = false) :
    Text.isBlank c = false := by
  rw [endsName, Bool.or_eq_false_iff] at h
  exact h.1

theorem bare_of_plain_destination (h : Plain (destination behind)) :
    bare (named behind) = destination behind ++ bare (behindName behind) := by
  conv_lhs => rw [← List.takeWhile_append_dropWhile (p := fun c => !endsName c) (l := named behind)]
  exact bareFrom_append_plain h.2 _

theorem ne_of_isBlank {c : Char} (h : Text.isBlank c = true) : c ≠ '^' ∧ c ≠ '"' := by
  constructor <;> rintro rfl <;> exact absurd h (by decide)

/-- Nothing hangs on to a destination exactly when a blank or nothing follows it. -/
theorem overhang_eq_nil_iff :
    overhang behind = [] ↔ ∀ c ∈ (behindName behind).head?, Text.isBlank c = true := by
  unfold overhang
  cases hrest : behindName behind with
  | nil => simp [bare, bareFrom]
  | cons c rest =>
      have hends : endsName c = true := by
        have hhead := List.head?_dropWhile_not (fun c => !endsName c) (named behind)
        have hsplit : (named behind).dropWhile (fun c => !endsName c) = c :: rest := hrest
        rw [hsplit] at hhead
        simpa using hhead
      have hsyntax : c ≠ '^' ∧ c ≠ '"' := by
        constructor <;> rintro rfl <;> exact absurd hends (by decide)
      rw [bare, bareFrom_cons_of_ne hsyntax.1 hsyntax.2]
      simp

theorem IsJump.length_eq (h : IsJump text before word behind) : word.length = 4 := by
  simpa using congrArg List.length h.word_eq

theorem IsJump.bare_eq (h : IsJump text before word behind) :
    bare (word ++ behind) = word ++ bare behind := by
  refine bareFrom_append_plain (fun c hc => ?_) behind
  have hmem : c.toLower ∈ "goto".toList := by
    rw [← h.word_eq]
    exact List.mem_map_of_mem hc
  constructor <;> rintro rfl <;> exact absurd hmem (by decide)

/-- The check takes the run behind the blanks for the name, without a colon in front of it. -/
theorem IsJump.jumpAt?_fst (h : IsJump text before word behind) {rest colon name : List Char} {d : Char}
    (hfound : (jumpAt? (word ++ rest)).isSome = true)
    (hrun : ((rest.dropWhile Text.isBlank).takeWhile fun c => !Text.isBlank c) = colon ++ d :: name)
    (hcolon : colon = [] ∧ d ≠ ':' ∨ colon = [':']) :
    (jumpAt? (word ++ rest)).map Prod.fst = some (d :: name) := by
  have hlength := h.length_eq
  have hstart : startsWithWord "goto".toList (word ++ rest) = true := by
    have htake : (word ++ rest).take 4 = word := by rw [← hlength, List.take_left]
    simp [startsWithWord, htake, h.word_eq]
  have hdrop : (word ++ rest).drop 4 = rest := by rw [← hlength, List.drop_left]
  unfold jumpAt? at hfound ⊢
  simp only [hstart, if_true, hdrop, hrun] at hfound ⊢
  split at hfound
  · cases hfound
  · rename_i hgap
    rw [if_neg hgap]
    rcases hcolon with ⟨rfl, hd⟩ | rfl
    · split
      · rename_i first rest heq
        exact absurd (List.cons.inj heq).1 hd
      · rfl
    · rfl

/-- What the check looks up is the destination with all that hangs on to it. -/
theorem IsJump.soughtAt_eq (h : IsJump text before word behind) (hplain : Plain (destination behind))
    (hfound : (jumpAt? (bare (word ++ behind))).isSome = true) :
    soughtAt (bare (word ++ behind)) = Text.lower (destination behind ++ overhang behind) := by
  obtain ⟨gap, colon, hbehind, hgap, hcolon⟩ := exists_eq_append_named behind
  obtain ⟨d, name, hname⟩ := List.exists_cons_of_ne_nil hplain.1
  have hclear : ∀ c ∈ colon ++ destination behind, Text.isBlank c = false := by
    intro c hc
    rcases List.mem_append.1 hc with hc | hc
    · rcases hcolon with ⟨rfl, -⟩ | rfl
      · exact absurd hc List.not_mem_nil
      · rw [List.mem_singleton.1 hc]
        decide
    · exact isBlank_of_endsName_eq_false (not_endsName_of_mem_destination hc)
  have hplainColon : ∀ c ∈ colon, c ≠ '^' ∧ c ≠ '"' := by
    rcases hcolon with ⟨rfl, -⟩ | rfl <;> simp
  have hbare : bare behind = gap ++ (colon ++ destination behind ++ bare (behindName behind)) := by
    conv_lhs => rw [hbehind, List.append_assoc]
    rw [bare, bareFrom_append_plain fun c hc => ne_of_isBlank (hgap c hc),
      bareFrom_append_plain hplainColon, List.append_assoc]
    exact congrArg (fun rest => gap ++ (colon ++ rest)) (bare_of_plain_destination hplain)
  have hrun : ((bare behind).dropWhile Text.isBlank).takeWhile (fun c => !Text.isBlank c) =
      colon ++ destination behind ++ overhang behind := by
    have hpos : 0 < (colon ++ destination behind).length := by simp [hname]
    have hkept : (colon ++ destination behind ++ bare (behindName behind)).dropWhile Text.isBlank =
        colon ++ destination behind ++ bare (behindName behind) := by
      rw [List.dropWhile_eq_self_iff]
      intro hl
      rw [List.getElem_append_left hpos, hclear _ (List.getElem_mem hpos)]
      decide
    rw [hbare, List.dropWhile_append_of_pos hgap, hkept, List.takeWhile_append_of_pos]
    · rfl
    · exact fun c hc => by simp [hclear c hc]
  rw [h.bare_eq] at hfound ⊢
  have hfirst : colon = [] ∧ d ≠ ':' ∨ colon = [':'] := by
    refine hcolon.imp_left fun ⟨hnil, hhead⟩ => ⟨hnil, ?_⟩
    rintro rfl
    rw [← List.takeWhile_append_dropWhile (p := fun c => !endsName c) (l := named behind)] at hhead
    change (destination behind ++ _).head? ≠ _ at hhead
    simp [hname] at hhead
  have hread : ((bare behind).dropWhile Text.isBlank).takeWhile (fun c => !Text.isBlank c) =
      colon ++ d :: (name ++ overhang behind) := by
    simp [hrun, hname]
  have hjump := h.jumpAt?_fst hfound hread hfirst
  rw [soughtAt, hjump, hname]
  rfl

theorem isSome_of_mem_jumpPlaces {inWord : Bool} {skip : Nat} {s : List Char}
    (h : place ∈ jumpPlaces inWord skip s) : (jumpAt? place).isSome = true := by
  fun_induction jumpPlaces inWord skip s with
  | case1 => exact absurd h List.not_mem_nil
  | case2 inWord skip c rest ih => exact ih h
  | case3 inWord c rest target length hjump ih =>
      rcases List.mem_cons.1 h with rfl | h
      · cases inWord with
        | false => exact Option.isSome_of_eq_some hjump
        | true => cases hjump
      · exact ih h
  | case4 inWord c rest hjump ih => exact ih h

/-- A jump is found to lead nowhere exactly when the check sees it and knows no label by the name that it
looks up.  For a destination without quotes and carets this name is the destination together with what
hangs on to it; so a jump to a label is never blamed where its destination ends at a blank or with the
line. -/
theorem unknown_jump_iff (hrow : (.command text, number) ∈ rows s)
    (hjump : IsJump text before word behind) :
    let place := bare (word ++ behind)
    (bare text = bare before ++ place ∧
      reports "EXF-BAT-0003" s = (unknownPlaces s).map fun (number, place) =>
        ⟨.unknownLabel (String.ofList (soughtAt place)), some number⟩) ∧
      ((number, place) ∈ unknownPlaces s ↔
        place ∈ (Row.command text).jumpPlaces ∧ soughtAt place ∉ labels (rows s)) ∧
      (Plain (destination behind) → place ∈ (Row.command text).jumpPlaces →
        soughtAt place = Text.lower (destination behind ++ overhang behind)) ∧
      (Text.lower (destination behind) ∈ labels (rows s) → Plain (destination behind) →
        (∀ c ∈ (behindName behind).head?, Text.isBlank c = true) →
          (number, place) ∉ unknownPlaces s) := by
  intro place
  have hiff : (number, place) ∈ unknownPlaces s ↔ _ := mem_unknownPlaces_iff hrow
  have hsought (hplain : Plain (destination behind))
      (hplace : place ∈ (Row.command text).jumpPlaces) :
      soughtAt place = Text.lower (destination behind ++ overhang behind) :=
    hjump.soughtAt_eq hplain (isSome_of_mem_jumpPlaces hplace)
  refine ⟨⟨?_, reports_unknown s⟩, hiff, hsought, ?_⟩
  · rw [hjump.text_eq, List.append_assoc, bare_append hjump.outside]
  · intro hlabel hplain hblank hmem
    obtain ⟨hplace, hunknown⟩ := hiff.1 hmem
    rw [hsought hplain hplace, overhang_eq_nil_iff.2 hblank, List.append_nil] at hunknown
    exact hunknown hlabel

/-- A jump in a block on one line, with a blank before the parenthesis that closes the block. -/
theorem unknown_jump_iff_of_blank :
    let s := "/*\nif 1==1 (goto :Build )\n:build\ngoto :eof\n*/\n".toList
    let text := "if 1==1 (goto :Build )".toList
    (Row.command text, 2) ∈ rows s ∧ IsJump text "if 1==1 (".toList "goto".toList " :Build )".toList ∧
      "goto :Build )".toList ∈ (Row.command text).jumpPlaces ∧
      soughtAt "goto :Build )".toList = "build".toList ∧
      (2, "goto :Build )".toList) ∉ unknownPlaces s := by
  intro s text
  have hrow : (Row.command text, 2) ∈ rows s := by decide +kernel
  have hjump : IsJump text "if 1==1 (".toList "goto".toList " :Build )".toList :=
    ⟨by decide, by decide, by decide⟩
  have hplace : bare ("goto".toList ++ " :Build )".toList) = "goto :Build )".toList := by decide +kernel
  have hseen : "goto :Build )".toList ∈ (Row.command text).jumpPlaces := by decide +kernel
  have hplain : Plain (destination " :Build )".toList) := ⟨by decide, by decide +kernel⟩
  have hhead : (behindName " :Build )".toList).head? = some ' ' := by decide +kernel
  have hblank : ∀ c ∈ (behindName " :Build )".toList).head?, Text.isBlank c = true := by
    rw [hhead]
    rintro c ⟨⟩
    decide
  obtain ⟨-, -, -, hnever⟩ := unknown_jump_iff hrow hjump
  rw [hplace] at hnever
  exact ⟨hrow, hjump, hseen, by decide +kernel, hnever (by decide +kernel) hplain hblank⟩

/-- Jumps to a label of the script that are found to lead nowhere: the name that is looked up goes on with
the parenthesis or the separator behind it. -/
theorem blamed_with_label :
    let inBlock := "/*\nif 1==1 (goto :build)\n:build\ngoto :eof\n*/\n".toList
    let joined := "/*\ngoto build&exit\n:build\ngoto :eof\n*/\n".toList
    ((Row.command "if 1==1 (goto :build)".toList, 2) ∈ rows inBlock ∧
      IsJump "if 1==1 (goto :build)".toList "if 1==1 (".toList "goto".toList " :build)".toList ∧
      destination " :build)".toList = "build".toList ∧ (.label "build".toList, 3) ∈ rows inBlock ∧
      batch inBlock = [⟨.unknownLabel "build)", some 2⟩]) ∧
      (Row.command "goto build&exit".toList, 2) ∈ rows joined ∧
      IsJump "goto build&exit".toList [] "goto".toList " build&exit".toList ∧
      destination " build&exit".toList = "build".toList ∧ (.label "build".toList, 3) ∈ rows joined ∧
      batch joined = [⟨.unknownLabel "build&exit", some 2⟩] := by
  intro inBlock joined
  refine ⟨⟨by decide +kernel, ⟨by decide, by decide, by decide⟩, by decide +kernel, by decide +kernel,
    by decide +kernel⟩, by decide +kernel, ⟨by decide, by decide, by decide⟩, by decide +kernel,
    by decide +kernel, by decide +kernel⟩

end Lint

end SelfBuild
