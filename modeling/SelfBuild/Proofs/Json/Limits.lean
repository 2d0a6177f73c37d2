import SelfBuild.Proofs.Json.Writing

/-!
# Texts beyond the limits of the reader

The reader refuses an integer with too many digits, and it gives up on containers that are nested too deeply.
Neither says anything about the text, and both happen as soon as a limit is passed: to a text of digits alone,
and to one that starts with opening brackets.
-/

namespace SelfBuild

namespace Json

variable {nesting : Nesting} {n outer fuel : Nat} {c : Char} {digits rest : List Char} {value : Value}

/-- The text is no fault of the writer, but more than can be read. -/
def BeyondLimits (nesting : Nesting) (text : WideText) : Prop :=
  TooDeep nesting text ∨ ∃ digits, read nesting text = .error (.longInteger digits)

theorem beyondLimits_iff {text : WideText} :
    BeyondLimits nesting text ↔
      ∃ fault, read nesting text = .error fault ∧ fault.isSyntax = false := by
  constructor
  · rintro (⟨container, hread⟩ | ⟨digits, hread⟩)
    · exact ⟨_, hread, rfl⟩
    · exact ⟨_, hread, rfl⟩
  · rintro ⟨fault, hread, hfault⟩
    cases fault with
    | malformed what position line column => cases hfault
    | longInteger digits => exact .inr ⟨digits, hread⟩
    | tooDeep container => exact .inl ⟨container, hread⟩

theorem not_beyondLimits {text : WideText} (hread : read nesting text = .ok value) :
    ¬ BeyondLimits nesting text := by
  intro hlimits
  obtain ⟨fault, hfault, -⟩ := beyondLimits_iff.1 hlimits
  rw [hread] at hfault
  cases hfault

/-! ## Long integers -/

theorem ne_of_isDigit {other : Char} (h : c.isDigit = true) (hother : other.isDigit = false) :
    c ≠ other := by
  rintro rfl
  rw [h] at hother
  cases hother

theorem constant?_of_isDigit (h : c.isDigit = true) (rest : List Char) :
    constant? (c :: rest) = none := by
  have hfirst : ∀ word ∈ constants, ∃ first more, word.1.toList = first :: more ∧
      first.isDigit = false := by
    intro word hword
    simp only [constants, List.mem_cons, List.not_mem_nil, or_false] at hword
    rcases hword with rfl | rfl | rfl | rfl | rfl | rfl <;> exact ⟨_, _, rfl, by decide⟩
  rw [constant?, List.findSome?_eq_none_iff]
  rintro ⟨word, value⟩ hword
  obtain ⟨first, more, hchars, hdigit⟩ := hfirst _ hword
  have hne : (first == c) = false := beq_false_of_ne (ne_of_isDigit h hdigit).symm
  dsimp only at hchars ⊢
  simp [hchars, List.isPrefixOf, hne]

theorem wholeDigits?_digits (hdigits : ∀ c ∈ digits, c.isDigit = true) (hne : digits ≠ [])
    (hzero : digits.head? ≠ some '0') : wholeDigits? digits = some (digits, []) := by
  have hspan : Decimal.spanDigits digits = (digits, []) := by
    have htake : (digits ++ []).takeWhile Char.isDigit = digits ++ [] :=
      List.takeWhile_append_of_pos hdigits
    have hdrop : (digits ++ []).dropWhile Char.isDigit = [] := List.dropWhile_append_of_pos hdigits
    rw [List.append_nil] at htake hdrop
    rw [Decimal.spanDigits, htake, hdrop]
  rw [wholeDigits?.eq_2 _ (by rintro rest rfl; exact hzero rfl), hspan]
  simp [hne]

/-- An integer is refused for nothing but the number of its digits. -/
theorem scalar?_digits (hdigits : ∀ c ∈ digits, c.isDigit = true)
    (hzero : digits.head? ≠ some '0') (hlong : digitLimit < digits.length) :
    scalar? digits = some (.error digits.length) := by
  cases digits with
  | nil => exact absurd hlong (Nat.not_lt_zero _)
  | cons c rest =>
      have hc : c.isDigit = true := hdigits c List.mem_cons_self
      have hminus : c ≠ '-' := ne_of_isDigit hc (by decide)
      have hwhole := wholeDigits?_digits hdigits (List.cons_ne_nil c rest) hzero
      have hsign : scalar? (c :: rest) = some (number false (c :: rest) []) := by
        simp [scalar?, constant?_of_isDigit hc, hminus, hwhole]
      rw [hsign]
      simp only [number, fraction?, power?, Option.getD_none, Option.isSome_none, Bool.or_self,
        Bool.false_eq_true, if_false, hlong, if_true]

theorem readScalar_digits (hdigits : ∀ c ∈ digits, c.isDigit = true)
    (hzero : digits.head? ≠ some '0') (hlong : digitLimit < digits.length) :
    readScalar (asPoints digits) = .error (.longInteger digits.length) := by
  have hword : ∀ c ∈ digits, isScalarChar c = true := by
    intro c hc
    simp [isScalarChar, Char.isAlphanum, hdigits c hc]
  have hspan : spanScalar (asPoints digits) = (digits, []) := by
    simpa [spanScalar] using spanScalar_append hword []
  simp only [readScalar, hspan, scalar?_digits hdigits hzero hlong]

theorem skipGap_digit (hc : c.isDigit = true) (rest : List Point) :
    skipGap (.char c :: rest) = .char c :: rest := by
  apply skipGap_cons
  have hblank : c ≠ ' ' := ne_of_isDigit hc (by decide)
  have htab : c ≠ '\t' := ne_of_isDigit hc (by decide)
  have hfeed : c ≠ '\n' := ne_of_isDigit hc (by decide)
  have hreturn : c ≠ '\r' := ne_of_isDigit hc (by decide)
  simp [isGap, hblank, htab, hfeed, hreturn]

/-- A value that starts with a digit is a number. -/
theorem readValue_digit (hc : c.isDigit = true) (rest : List Point) :
    readValue nesting outer (fuel + 1) (.char c :: rest) = readScalar (.char c :: rest) := by
  have hquote : c ≠ '"' := ne_of_isDigit hc (by decide)
  have harray : c ≠ '[' := ne_of_isDigit hc (by decide)
  have hobject : c ≠ '\x7b' := ne_of_isDigit hc (by decide)
  simp only [readValue]
  split
  · rename_i h
    exact absurd (Point.char.inj (List.cons.inj h).1) hquote
  · rename_i h
    exact absurd (Point.char.inj (List.cons.inj h).1) harray
  · rename_i h
    exact absurd (Point.char.inj (List.cons.inj h).1) hobject
  · rfl

/-- A text of too many digits is a long integer, and nothing else is wrong with it. -/
theorem read_digits (nesting : Nesting) (hdigits : ∀ c ∈ digits, c.isDigit = true)
    (hzero : digits.head? ≠ some '0') (hlong : digitLimit < digits.length) :
    read nesting (String.ofList digits) = .error (.longInteger digits.length) := by
  have hscalar := readScalar_digits hdigits hzero hlong
  cases digits with
  | nil => exact absurd hlong (Nat.not_lt_zero _)
  | cons c rest =>
      have hc : c.isDigit = true := hdigits c List.mem_cons_self
      have hmark : (asPoints (c :: rest)).head? ≠ some (.char (Char.ofNat 0xfeff)) :=
        fun e => ne_of_isDigit hc (by decide) (Point.char.inj (Option.some.inj e))
      have hall : readAll nesting (asPoints (c :: rest)) =
          .error (.longInteger (c :: rest).length) := by
        rw [asPoints, List.map_cons] at hscalar hmark ⊢
        unfold readAll
        rw [if_neg hmark, skipGap_digit hc, readValue_digit hc, hscalar]
        rfl
      unfold read
      rw [WideText.points, String.toList_ofList, hall]
      rfl

/-! ## Deep nesting -/

/-- Every opening bracket is one container more, until the reader gives up. -/
theorem readValue_brackets (hdeep : nesting.depth ≤ outer + n) (hfuel : 2 * n < fuel)
    (rest : List Point) :
    readValue nesting outer fuel (List.replicate (n + 1) (.char '[') ++ rest) =
      .error (.tooDeep .array) := by
  induction n generalizing outer fuel with
  | zero =>
      obtain ⟨fuel, rfl⟩ : ∃ left, fuel = left + 1 := ⟨fuel - 1, by omega⟩
      simp [readValue, show outer ≥ nesting.depth from hdeep]
  | succ n ih =>
      obtain ⟨fuel, rfl⟩ : ∃ left, fuel = left + 2 := ⟨fuel - 2, by omega⟩
      let inner : List Point := List.replicate (n + 1) (.char '[') ++ rest
      have hinner : readValue nesting (outer + 1) fuel inner = .error (.tooDeep .array) :=
        ih (by omega) (by omega)
      have hgap : skipGap inner = inner := skipGap_cons (by decide) _
      have hitems : readItems nesting (outer + 1) (fuel + 1) [] inner = .error (.tooDeep .array) := by
        simp only [readItems, hinner]
        rfl
      have hopen : List.replicate (n + 1 + 1) (Point.char '[') ++ rest = .char '[' :: inner := by
        rw [List.replicate_succ, List.cons_append]
      rw [hopen]
      by_cases hlimit : outer ≥ nesting.depth
      · simp [readValue, hlimit]
      · simp only [readValue, hlimit, if_false, hgap]
        exact hitems

/-- A text is given up on as soon as more brackets are opened than the limit allows, whatever follows. -/
theorem tooDeep_brackets (hdeep : nesting.depth < n) (rest : List Char) :
    TooDeep nesting (String.ofList (List.replicate n '[' ++ rest)) := by
  obtain ⟨n, rfl⟩ : ∃ less, n = less + 1 := ⟨n - 1, by omega⟩
  have hpoints : (WideText.plain (String.ofList (List.replicate (n + 1) '[' ++ rest))).points =
      List.replicate (n + 1) (.char '[') ++ asPoints rest := by
    rw [WideText.points, String.toList_ofList, List.map_append, List.map_replicate]
  have hread : readValue nesting 0
      (2 * (List.replicate (n + 1) (Point.char '[') ++ asPoints rest).length + 2)
      (List.replicate (n + 1) (.char '[') ++ asPoints rest) = .error (.tooDeep .array) := by
    apply readValue_brackets
    · omega
    · rw [List.length_append, List.length_replicate]
      omega
  have hgap : skipGap (List.replicate (n + 1) (.char '[') ++ asPoints rest) =
      List.replicate (n + 1) (.char '[') ++ asPoints rest := skipGap_cons (by decide) _
  have hmark : (List.replicate (n + 1) (Point.char '[') ++ asPoints rest).head? ≠
      some (.char (Char.ofNat 0xfeff)) := by
    rw [List.replicate_succ, List.cons_append, List.head?_cons]
    decide
  have hall : readAll nesting (List.replicate (n + 1) (.char '[') ++ asPoints rest) =
      .error (.tooDeep .array) := by
    unfold readAll
    rw [if_neg hmark, hgap, hread]
    rfl
  refine ⟨.array, ?_⟩
  unfold read
  rw [hpoints, hall]
  rfl

end Json

end SelfBuild
