import SelfBuild.Lint.Batch
import SelfBuild.Proofs.Text.Occurrence
import SelfBuild.Proofs.Text.Trim

/-!
# The syntax of a line

Small rules for reading a line whose ends are known and whose middle is not: what kind of row it is,
what is left of it outside quotes, where its parentheses lead, and why it has no jump.
-/

namespace SelfBuild

namespace Lint

variable {s xs ys : List Char} {c : Char}

/-! ## Rows -/

theorem ofLine_blank_append_blank {before after : List Char}
    (hb : ∀ c ∈ before, Text.isBlank c = true) (ha : ∀ c ∈ after, Text.isBlank c = true)
    (s : List Char) : Row.ofLine (before ++ s ++ after) = Row.ofLine s := by
  unfold Row.ofLine
  rw [Text.trim_blank_append_blank hb ha]

/-- Whether the start of a line can only belong to a command. -/
def opensCommand : List Char -> Bool
  | [] => false
  | c :: _ => !Text.isBlank c && c != ':' && c.toNat < 0x80 && c.toLower != 'r'

theorem opensCommand_append (h : opensCommand xs = true) (ys : List Char) :
    opensCommand (xs ++ ys) = true := by
  cases xs with
  | nil => exact absurd h (by decide)
  | cons c xs => exact h

theorem lower_cons_ascii (hc : c.toNat < 0x80) (s : List Char) :
    Text.lower (c :: s) = c.toLower :: Text.lowerAfter [c] s := by
  have hsigma : c ≠ 'Σ' := by
    rintro rfl
    exact absurd hc (by decide)
  simp [Text.lower, Text.lowerAfter, Text.lowerChar, hsigma, hc]

theorem isRemark_of_opensCommand (h : opensCommand s = true) : isRemark s = false := by
  cases s with
  | nil => exact absurd h (by decide)
  | cons c s =>
      simp only [opensCommand, Bool.and_eq_true, decide_eq_true_eq, bne_iff_ne] at h
      obtain ⟨⟨⟨-, hcolon⟩, hascii⟩, hremark⟩ := h
      have hcolons : "::".toList = [':', ':'] := rfl
      have hrem : "rem ".toList = ['r', 'e', 'm', ' '] := rfl
      rw [isRemark, lower_cons_ascii hascii, hcolons, hrem]
      simp [List.isPrefixOf, Ne.symm hcolon, Ne.symm hremark]

theorem ofLine_eq_command (h : opensCommand (Text.trim s) = true) :
    Row.ofLine s = .command (Text.trim s) := by
  unfold Row.ofLine
  dsimp only
  generalize Text.trim s = text at h
  cases text with
  | nil => exact absurd h (by decide)
  | cons c text =>
      have hsome : ¬ (decide (c :: text = []) || isRemark (c :: text)) = true := by
        simp [isRemark_of_opensCommand h]
      simp only [opensCommand, Bool.and_eq_true, bne_iff_ne] at h
      obtain ⟨⟨⟨-, hcolon⟩, -⟩, -⟩ := h
      rw [if_neg hsome]
      split
      · rename_i name heq
        exact absurd (List.cons.inj heq).1 hcolon
      · rfl

theorem ofLine_of_opensCommand {d : Char} (h : opensCommand s = true)
    (hlast : s.getLast? = some d) (hd : Text.isBlank d = false) :
    Row.ofLine s = .command s := by
  have htrim : Text.trim s = s := by
    cases s with
    | nil => rfl
    | cons c s =>
        simp only [opensCommand, Bool.and_eq_true, Bool.not_eq_true'] at h
        exact Text.trim_eq_self List.head?_cons h.1.1.1 hlast hd
  have hcommand := ofLine_eq_command (htrim.symm ▸ h)
  rwa [htrim] at hcommand

/-- A line with a known start and a known end is a command, whatever stands between them. -/
theorem ofLine_framed {head middle rest : List Char} {d : Char} (h : opensCommand head = true)
    (hlast : rest.getLast? = some d) (hd : Text.isBlank d = false) :
    Row.ofLine (head ++ middle ++ rest) = .command (head ++ middle ++ rest) := by
  have hopen : opensCommand (head ++ middle ++ rest) = true :=
    opensCommand_append (opensCommand_append h middle) rest
  exact ofLine_of_opensCommand hopen (by simp [hlast]) hd

/-! ## Quotes and escapes -/

theorem bareFrom_cons_of_ne (hcaret : c ≠ '^') (hquote : c ≠ '"') (rest : List Char) :
    bareFrom false (c :: rest) = c :: bareFrom false rest := by
  rw [bareFrom.eq_def]
  simp [hcaret, hquote]

theorem bareFrom_quote (quoted : Bool) (rest : List Char) :
    bareFrom quoted ('"' :: rest) = bareFrom (!quoted) rest := by
  rw [bareFrom.eq_def]
  simp

theorem bareFrom_true_cons_of_ne (hquote : c ≠ '"') (rest : List Char) :
    bareFrom true (c :: rest) = bareFrom true rest := by
  rw [bareFrom.eq_def]
  simp [hquote]

theorem bareFrom_append_plain (h : ∀ c ∈ xs, c ≠ '^' ∧ c ≠ '"') (ys : List Char) :
    bareFrom false (xs ++ ys) = xs ++ bareFrom false ys := by
  induction xs with
  | nil => rfl
  | cons c xs ih =>
      obtain ⟨hcaret, hquote⟩ := h c (by simp)
      have hrest := ih fun d hd => h d (by simp [hd])
      rw [List.cons_append, bareFrom_cons_of_ne hcaret hquote, hrest, List.cons_append]

theorem bare_of_plain (h : ∀ c ∈ s, c ≠ '^' ∧ c ≠ '"') : bare s = s := by
  have happend := bareFrom_append_plain h []
  rwa [List.append_nil, bareFrom.eq_1, List.append_nil] at happend

theorem bareFrom_true_append_quote (h : '"' ∉ xs) (ys : List Char) :
    bareFrom true (xs ++ '"' :: ys) = bareFrom false ys := by
  induction xs with
  | nil => exact bareFrom_quote true ys
  | cons c xs ih =>
      rw [List.mem_cons, not_or] at h
      rw [List.cons_append, bareFrom_true_cons_of_ne (Ne.symm h.1), ih h.2]

theorem bareFrom_quote_append_quote (h : '"' ∉ xs) (ys : List Char) :
    bareFrom false ('"' :: (xs ++ '"' :: ys)) = bareFrom false ys := by
  rw [bareFrom_quote, Bool.not_false, bareFrom_true_append_quote h]

/-! ## Parentheses -/

theorem parentheses_append_of_not_mem (h : ∀ c ∈ xs, c ≠ '(' ∧ c ≠ ')') (depth : Nat)
    (ys : List Char) : parentheses depth (xs ++ ys) = parentheses depth ys := by
  induction xs with
  | nil => rfl
  | cons c xs ih =>
      obtain ⟨hopen, hclose⟩ := h c (by simp)
      have hrest := ih fun d hd => h d (by simp [hd])
      simp [parentheses, hopen, hclose, hrest]

theorem parentheses_of_not_mem (h : ∀ c ∈ s, c ≠ '(' ∧ c ≠ ')') (depth : Nat) :
    parentheses depth s = (0, depth) := by
  simpa [parentheses] using parentheses_append_of_not_mem h depth []

/-! ## Jumps -/

/-- A jump starts with its word and a blank. -/
theorem exists_of_jumpAt? {found : List Char × Nat} (h : jumpAt? s = some found) :
    ∃ word blank rest, s = word ++ blank :: rest ∧ word.map Char.toLower = "goto".toList ∧
      Text.isBlank blank = true := by
  unfold jumpAt? at h
  split at h
  · rename_i hword
    have hstart : (s.take 4).map Char.toLower = "goto".toList := by
      simpa [startsWithWord] using hword
    cases hdrop : s.drop 4 with
    | nil => simp [hdrop] at h
    | cons blank rest =>
        refine ⟨s.take 4, blank, rest, by rw [← hdrop, List.take_append_drop], hstart, ?_⟩
        by_contra hblank
        simp [hdrop, hblank] at h
  · exact absurd h (by simp)

theorem jumpAt?_append_eq_none (h : ¬ "goto".toList <+: xs.map Char.toLower)
    (hys : ∀ c ∈ ys, Text.isBlank c = false) : jumpAt? (xs ++ ys) = none := by
  rw [Option.eq_none_iff_forall_ne_some]
  intro found hfound
  obtain ⟨word, blank, rest, hsplit, hword, hblank⟩ := exists_of_jumpAt? hfound
  rcases List.append_eq_append_iff.1 hsplit with ⟨more, rfl, hrest⟩ | ⟨more, rfl, hrest⟩
  · have hmem : blank ∈ ys := by simp [hrest]
    exact absurd (hys blank hmem) (by simp [hblank])
  · exact h ⟨more.map Char.toLower, by rw [List.map_append, hword]⟩

theorem jumpsFrom_eq_nil (h : ∀ before after, s = before ++ after → jumpAt? after = none)
    (inWord : Bool) : jumpsFrom inWord 0 s = [] := by
  induction s generalizing inWord with
  | nil => rfl
  | cons c s ih =>
      have hnone : jumpAt? (c :: s) = none := h [] (c :: s) rfl
      have hrest := ih fun before after hs => h (c :: before) after (by simp [hs])
      rw [jumpsFrom, hnone]
      simp [hrest]

/-- A text in which the word of a jump never stands before a blank has no jump. -/
theorem jumps_append_eq_nil (h : ¬ "goto".toList <:+: xs.map Char.toLower)
    (hys : ∀ c ∈ ys, Text.isBlank c = false) : jumps (xs ++ ys) = [] := by
  rw [jumps, jumpsFrom_eq_nil, List.map_nil]
  intro before after hsplit
  rcases List.append_eq_append_iff.1 hsplit with ⟨more, rfl, rfl⟩ | ⟨more, rfl, rfl⟩
  · have hnil : ¬ "goto".toList <+: ([] : List Char).map Char.toLower := by decide
    simpa using jumpAt?_append_eq_none hnil fun c hc => hys c (by simp [hc])
  · refine jumpAt?_append_eq_none (fun hstart => h ?_) hys
    rw [List.map_append]
    exact List.infix_append_of_infix_right hstart.isInfix

theorem jumps_eq_nil (h : ¬ "goto".toList <:+: s.map Char.toLower) : jumps s = [] := by
  have happend := jumps_append_eq_nil h (List.forall_mem_nil _)
  rwa [List.append_nil] at happend

end Lint

end SelfBuild
