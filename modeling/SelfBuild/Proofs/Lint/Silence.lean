import SelfBuild.Proofs.Lint.Spans

/-!
# Escaped text and blocks

The syntax of a line is a part of it that has no syntax to take away any more.  Of an escaped text it has what
stands outside spans of quotes, without the characters that have a meaning of their own.  So there is no
parenthesis in it, and behind a line, whatever that line is, an escaped text opens no block, closes none, and
does not make an echo end one.
-/

namespace SelfBuild

namespace Lint

open Preamble Text

variable {line other u : List Char} {c : Char}

/-! ## The syntax of a line -/

theorem bareIn_sublist (quoting : Quoting) (s : List Char) : (bareIn quoting s).Sublist s := by
  induction s generalizing quoting with
  | nil => rw [bareIn_nil]
  | cons c s ih =>
      rw [bareIn_cons]
      exact List.filter_sublist.append (ih (quoting.next c))

theorem ne_of_mem_bare (h : c ∈ bare line) : c ≠ '^' ∧ c ≠ '"' := by
  rw [bare_eq_places] at h
  obtain ⟨⟨before, d⟩, hplace, rfl⟩ := List.mem_map.1 h
  have hkeeps := (List.mem_filter.1 hplace).2
  cases hquoting : quotingAfter before <;> simp_all [Quoting.keeps]

theorem bare_bare (line : List Char) : bare (bare line) = bare line :=
  bare_of_plain fun _ => ne_of_mem_bare

/-- What the linter hears of an escaped text, by the places of its characters. -/
theorem bare_escapeEcho (text : List Char) :
    bare (escapeEcho text) =
      ((places text).filter fun (before, c) => !inSpan before && c ≠ '"' && !isMeta c).map Prod.snd := by
  have hread (spanned : Bool) : plainPart spanned text =
      readWith crosses (fun spanned c => [c].filter fun c => !spanned && c ≠ '"' && !isMeta c) spanned text := by
    induction text generalizing spanned with
    | nil => rfl
    | cons c text ih =>
        rw [readWith, ← ih, plainPart, outsideQuotes, crosses]
        by_cases hquote : c = '"'
        · simp [hquote, plainPart]
        · cases spanned <;> cases hmeta : isMeta c <;> simp [hquote, hmeta, plainPart]
  have hplaces := hread false
  rw [readWith_eq_filter] at hplaces
  simp only [foldl_crosses] at hplaces
  exact (bareFrom_escapeEcho false text).trans hplaces

/-! ## Brackets -/

/-- The parentheses that the linter hears in a line. -/
def brackets (line : List Char) : List DyckStep :=
  (bare line).filterMap parenthesis?

theorem mem_of_parenthesis (h : parenthesis? c ≠ none) : c ∈ ['(', ')'] := by
  unfold parenthesis? at h
  split at h
  · exact List.mem_cons_self
  · exact List.mem_cons_of_mem _ List.mem_cons_self
  · exact absurd rfl h

theorem filterMap_parenthesis_eq_nil {s : List Char} (h : ∀ c ∈ s, c ∉ ['(', ')']) :
    s.filterMap parenthesis? = [] := by
  rw [List.filterMap_eq_nil_iff]
  intro c hc
  by_contra hsome
  exact h c hc (mem_of_parenthesis hsome)

theorem bracketsIn_escapeEcho {quoting : Quoting} (h : quoting ≠ .escaped) (text : List Char) :
    (bareIn quoting (escapeEcho text)).filterMap parenthesis? = [] := by
  have hplain (spanned : Bool) : (plainPart spanned text).filterMap parenthesis? = [] := by
    refine filterMap_parenthesis_eq_nil fun c hc hbracket => ?_
    have hmeta : ∀ c ∈ ['(', ')'], isMeta c = true := by decide
    rw [plainPart, List.mem_filter, hmeta c hbracket] at hc
    cases hc.2
  cases quoting with
  | outside => rw [bareIn, bareFrom_escapeEcho, hplain]
  | inside => rw [bareIn, bareFrom_escapeEcho, hplain]
  | escaped => exact absurd rfl h

/-- Behind a line that does not end with an open escape, an escaped text adds no parenthesis. -/
theorem brackets_append_escapeEcho (h : quotingAfter line ≠ .escaped) (text : List Char) :
    brackets (line ++ escapeEcho text) = brackets line := by
  rw [brackets, bare_append_eq, List.filterMap_append, bracketsIn_escapeEcho h, List.append_nil, brackets]

theorem brackets_trim (line : List Char) : brackets (trim line) = brackets line := by
  obtain ⟨before, after, hb, ha, hline⟩ := exists_blank_append_trim line
  have hblank : ∀ c ∈ ['(', ')'], isBlank c = false := by decide
  have hbefore (s : List Char) : bare (before ++ s) = before ++ bare s := by
    refine bareFrom_append_plain (fun c hc => ?_) s
    constructor <;> rintro rfl <;> cases hb _ hc
  have hnone {s : List Char} (hs : ∀ c ∈ s, isBlank c = true) : s.filterMap parenthesis? = [] :=
    filterMap_parenthesis_eq_nil fun c hc hbracket => by simpa [hs c hc] using hblank c hbracket
  have hafter (quoting : Quoting) : (bareIn quoting after).filterMap parenthesis? = [] :=
    hnone fun c hc => ha c ((bareIn_sublist quoting after).mem hc)
  conv_rhs => rw [hline]
  rw [brackets, brackets, List.append_assoc, hbefore, bare_append_eq, List.filterMap_append,
    List.filterMap_append, hnone hb, hafter, List.nil_append, List.append_nil]

/-! ## What a bracket settles

Whether a line is a remark or a label, and whether it is an echo, is settled in front of the first bracket. -/

theorem isRemark_append_cons (hc : c ∈ ['(', ')']) (u v w : List Char) :
    isRemark (u ++ c :: v) = isRemark (u ++ c :: w) := by
  have hall : ∀ c ∈ ['(', ')'], c ∉ "::".toList ∧ c ∉ "rem ".toList ∧ lowerChar c = [c] ∧ c ≠ 'Σ' := by decide
  obtain ⟨hcolons, hrem, hform, hne⟩ := hall c hc
  have himp (v w : List Char) (h : isRemark (u ++ c :: v) = true) : isRemark (u ++ c :: w) = true := by
    rw [isRemark, Bool.or_eq_true, List.isPrefixOf_iff_prefix, List.isPrefixOf_iff_prefix] at h ⊢
    rcases h with h | h
    · exact .inl ((prefix_of_prefix_append_cons hcolons h).trans (List.prefix_append _ _))
    · exact .inr (prefix_lowerAfter_append_cons hform hne hrem (by decide) (by decide) w h)
  exact Bool.eq_iff_iff.2 ⟨himp v w, himp w v⟩

theorem startsWithWord_iff {word s : List Char} :
    startsWithWord word s = true ↔ word <+: s.map Char.toLower := by
  rw [startsWithWord, decide_eq_true_iff, List.map_take, List.prefix_iff_eq_take, eq_comm]

theorem isEcho_append_cons (hc : c ∈ ['(', ')']) (u v w : List Char) :
    isEcho (u ++ c :: v) = isEcho (u ++ c :: w) := by
  have hall : ∀ c ∈ ['(', ')'], c ≠ '@' ∧ c ∉ "echo".toList ∧ c.toLower = c := by decide
  obtain ⟨hat, hecho, hlower⟩ := hall c hc
  have hunmarked (v : List Char) : unmarked (u ++ c :: v) = unmarked u ++ c :: v := by
    cases u with
    | nil => simp [unmarked, hat]
    | cons d u =>
        by_cases hd : d = '@'
        · subst hd
          rfl
        · simp [unmarked, hd]
  have himp (v w : List Char) (h : isEcho (u ++ c :: v) = true) : isEcho (u ++ c :: w) = true := by
    rw [isEcho_eq, hunmarked, Bool.and_eq_true, startsWithWord_iff, List.map_append, List.map_cons, hlower] at h ⊢
    obtain ⟨hword, hend⟩ := h
    have hstart := prefix_of_prefix_append_cons hecho hword
    have hlength : 4 ≤ (unmarked u).length := by simpa using hstart.length_le
    refine ⟨hstart.trans (List.prefix_append _ _), ?_⟩
    rw [List.drop_append_of_le_length hlength] at hend ⊢
    cases hdrop : (unmarked u).drop 4 with
    | nil => rwa [hdrop] at hend
    | cons d rest => rwa [hdrop] at hend
  exact Bool.eq_iff_iff.2 ⟨himp v w, himp w v⟩

/-! ## Rows and scripts -/

/-- Rows that mean the same to the check of the blocks. -/
structure Row.SameBlocks (row other : Row) : Prop where
  word_eq : other.word = row.word
  findings_eq : ∀ depth number, other.findings depth number = row.findings depth number

theorem word_command (text : List Char) :
    (Row.command text).word = if isEcho (bare text) then [] else brackets text := rfl

/-- A row takes part in the blocks by its brackets and by whether it is an echo. -/
theorem findings_command (depth number : Nat) (text : List Char) :
    (Row.command text).findings depth number =
      if isEcho (bare text) then
        if 0 < depth && (brackets text).contains .D then [⟨.echoEndsBlock, some number⟩] else []
      else
        (strayLines depth ((brackets text).map fun c => (c, number))).map fun line =>
          ⟨.strayParenthesis, some line⟩ := by
  have hclose : (bare text).contains ')' = (brackets text).contains .D := by
    rw [Bool.eq_iff_iff, List.contains_iff_mem, List.contains_iff_mem, brackets, List.mem_filterMap]
    constructor
    · exact fun h => ⟨')', h, rfl⟩
    · rintro ⟨c, hc, hstep⟩
      unfold parenthesis? at hstep
      split at hstep <;> simp_all
  rw [Row.findings, hclose, brackets, ← (parentheses_eq depth number (bare text)).1, List.map_replicate]

theorem sameBlocks_command {x y : List Char} (hbrackets : brackets y = brackets x)
    (hecho : isEcho (bare y) = isEcho (bare x)) : (Row.command x).SameBlocks (.command y) where
  word_eq := by rw [word_command, word_command, hbrackets, hecho]
  findings_eq depth number := by rw [findings_command, findings_command, hbrackets, hecho]

theorem Row.SameBlocks.symm {row other : Row} (h : row.SameBlocks other) : other.SameBlocks row :=
  ⟨h.word_eq.symm, fun depth number => (h.findings_eq depth number).symm⟩

theorem Row.SameBlocks.trans {row other third : Row} (h : row.SameBlocks other)
    (hthird : other.SameBlocks third) : row.SameBlocks third :=
  ⟨hthird.word_eq.trans h.word_eq,
    fun depth number => (hthird.findings_eq depth number).trans (h.findings_eq depth number)⟩

/-- A line without brackets means nothing to the blocks. -/
theorem sameBlocks_nothing (h : brackets line = []) : Row.nothing.SameBlocks (Row.ofLine line) := by
  have htrim := brackets_trim line
  rw [h] at htrim
  unfold Row.ofLine
  dsimp only
  split
  · exact ⟨rfl, fun _ _ => rfl⟩
  · split
    · exact ⟨rfl, fun _ _ => rfl⟩
    · refine ⟨?_, fun depth number => ?_⟩
      · rw [word_command, htrim, ite_self]
        rfl
      · rw [findings_command, htrim]
        cases isEcho (bare (trim line)) <;> cases depth <;> rfl

/-- Lines that are the same up to a bracket are of one kind. -/
theorem sameBlocks_ofLine {v w : List Char} (hc : c ∈ ['(', ')']) (hline : trim line = u ++ c :: v)
    (hother : trim other = u ++ c :: w)
    (hsame : (Row.command (u ++ c :: v)).SameBlocks (.command (u ++ c :: w))) :
    (Row.ofLine line).SameBlocks (Row.ofLine other) := by
  unfold Row.ofLine
  rw [hline, hother]
  dsimp only
  rw [isRemark_append_cons hc u w v]
  cases isRemark (u ++ c :: v) with
  | true => simpa using ⟨rfl, fun _ _ => rfl⟩
  | false =>
      have hcolon : ∀ c ∈ ['(', ')'], c ≠ ':' := by decide
      cases u with
      | nil => simpa [hcolon c hc] using hsame
      | cons d u =>
          by_cases hd : d = ':'
          · subst hd
            simpa using ⟨rfl, fun _ _ => rfl⟩
          · simpa [hd] using hsame

/-- What a line means to the blocks does not change with an escaped text behind it. -/
theorem sameBlocks_append_escapeEcho (h : quotingAfter line ≠ .escaped) (text : List Char) :
    (Row.ofLine line).SameBlocks (Row.ofLine (line ++ escapeEcho text)) := by
  have hbrackets := brackets_append_escapeEcho h text
  -- A line may be so short that the text behind it makes it another kind of row, but then it has no bracket.
  by_cases hnil : brackets line = []
  · exact (sameBlocks_nothing hnil).symm.trans (sameBlocks_nothing (hbrackets.trans hnil))
  · obtain ⟨c, hheard, hc⟩ : ∃ c ∈ bare (trim line), c ∈ ['(', ')'] := by
      by_contra hnone
      simp only [not_exists, not_and] at hnone
      rw [← brackets_trim] at hnil
      exact hnil (filterMap_parenthesis_eq_nil hnone)
    have hmem : c ∈ trim line := (bareIn_sublist .outside _).mem hheard
    have hblank : allBlank line = false := by
      rw [← Bool.not_eq_true, ← trim_eq_nil_iff]
      exact List.ne_nil_of_mem hmem
    obtain ⟨more, hmore⟩ := exists_trim_append hblank (escapeEcho text)
    obtain ⟨u, v, hline⟩ := List.append_of_mem hmem
    obtain ⟨x, y, hbare⟩ := List.append_of_mem hheard
    have hother : trim (line ++ escapeEcho text) = u ++ c :: (v ++ more) := by
      rw [hmore, hline, List.append_assoc, List.cons_append]
    have hecho : isEcho (bare (trim (line ++ escapeEcho text))) = isEcho (bare (trim line)) := by
      rw [hmore, bare_append_eq, hbare, List.append_assoc, List.cons_append]
      exact isEcho_append_cons hc _ _ _
    have hsame := sameBlocks_command (by rw [brackets_trim, brackets_trim, hbrackets]) hecho
    rw [hline, hother] at hsame
    exact sameBlocks_ofLine hc hline hother hsame

/-- A line as it is, or with an escaped text behind it if no escape is open there. -/
inductive Continued : List Char → List Char → Prop
  | same (line : List Char) : Continued line line
  | escaped {line : List Char} (h : quotingAfter line ≠ .escaped) (text : List Char) :
      Continued line (line ++ escapeEcho text)

theorem Continued.sameBlocks (h : Continued line other) : (Row.ofLine line).SameBlocks (Row.ofLine other) := by
  cases h with
  | same => exact ⟨rfl, fun _ _ => rfl⟩
  | escaped h text => exact sameBlocks_append_escapeEcho h text

theorem blocks_numbered_continued {xs ys : List (List Char)} (h : List.Forall₂ Continued xs ys)
    (depth start : Nat) :
    blocks depth (bareCommands (numbered start ys)) = blocks depth (bareCommands (numbered start xs)) := by
  induction h generalizing depth start with
  | nil => rfl
  | cons hline _ ih =>
      obtain ⟨hword, hfindings⟩ := hline.sameBlocks
      rw [numbered_cons, numbered_cons, blocks_step, blocks_step, hword, hfindings, ih]

/-- The syntax of a line is a part of it without carets and quotes, and has no other syntax than itself.  Of an
escaped text it is what stands outside spans of quotes, without the quotes and the characters that have a meaning
of their own.  So the findings on blocks are the same with and without an escaped text behind any lines of a
script. -/
theorem escaped_text_silent :
    (∀ line, (bare line).Sublist line ∧ '^' ∉ bare line ∧ '"' ∉ bare line ∧ bare (bare line) = bare line) ∧
      (∀ text, bare (escapeEcho text) =
        ((places text).filter fun (before, c) =>
          !inSpan before && c ∉ ['"', '^', '&', '|', '<', '>', '(', ')']).map Prod.snd) ∧
      ∀ s t, List.Forall₂ Continued (innerLines s) (innerLines t) →
        reports "EXF-BAT-0001" t = reports "EXF-BAT-0001" s ∧
          reports "EXF-BAT-0002" t = reports "EXF-BAT-0002" s := by
  refine ⟨fun line => ⟨bareIn_sublist .outside line, ?_, ?_, bare_bare line⟩, fun text => ?_, fun s t h => ?_⟩
  · exact fun hmem => (ne_of_mem_bare hmem).1 rfl
  · exact fun hmem => (ne_of_mem_bare hmem).2 rfl
  · rw [bare_escapeEcho]
    congr 2
    funext ⟨before, c⟩
    simp [isMeta, Bool.and_assoc]
  · have hblocks : blocks 0 (bareCommands (rows t)) = blocks 0 (bareCommands (rows s)) := by
      rw [rows_eq_numbered, rows_eq_numbered, blocks_numbered_continued h]
    constructor <;> rw [reports_of_blocks (by decide), reports_of_blocks (by decide), hblocks]

theorem escaped_text_silent_in_block :
    let s := "/*\n)\nif 1==1 (\necho he said \necho (oops) \n)\ngoto :eof\n*/\n".toList
    let t := "/*\n)\nif 1==1 (\necho he said \"^( ^^\" ^)^& b\necho (oops) ^(\"\n)\ngoto :eof\n*/\n".toList
    List.Forall₂ Continued (innerLines s) (innerLines t) ∧
      (reports "EXF-BAT-0001" s = [⟨.strayParenthesis, some 2⟩] ∧
        reports "EXF-BAT-0002" s = [⟨.echoEndsBlock, some 5⟩]) ∧
      reports "EXF-BAT-0001" t = [⟨.strayParenthesis, some 2⟩] ∧
        reports "EXF-BAT-0002" t = [⟨.echoEndsBlock, some 5⟩] := by
  intro s t
  have hs : innerLines s = [")".toList, "if 1==1 (".toList, "echo he said ".toList, "echo (oops) ".toList,
      ")".toList, "goto :eof".toList] := by decide +kernel
  have ht : innerLines t = [")".toList, "if 1==1 (".toList,
      "echo he said ".toList ++ escapeEcho "\"( ^\" )& b".toList,
      "echo (oops) ".toList ++ escapeEcho "(\"".toList, ")".toList, "goto :eof".toList] := by decide +kernel
  have hlines : List.Forall₂ Continued (innerLines s) (innerLines t) := by
    rw [hs, ht]
    have hfirst : quotingAfter "echo he said ".toList ≠ .escaped := by decide
    have hsecond : quotingAfter "echo (oops) ".toList ≠ .escaped := by decide
    exact .cons (.same _) (.cons (.same _) (.cons (.escaped hfirst _) (.cons (.escaped hsecond _)
      (.cons (.same _) (.cons (.same _) .nil)))))
  obtain ⟨hstray, hecho⟩ := escaped_text_silent.2.2 s t hlines
  have hfound : reports "EXF-BAT-0001" s = [⟨.strayParenthesis, some 2⟩] ∧
      reports "EXF-BAT-0002" s = [⟨.echoEndsBlock, some 5⟩] := by decide +kernel
  exact ⟨hlines, hfound, hstray.trans hfound.1, hecho.trans hfound.2⟩

end Lint

end SelfBuild
