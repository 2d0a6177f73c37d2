import SelfBuild.Options

/-!
# Options in their own words

Options that are given by their own words and truth values are understood as what they are.
-/

namespace SelfBuild

namespace Options

theorem member?_word_architecture (a : Architecture) :
    member? Architecture.all Architecture.word a.word = some a := by
  cases a <;> decide

theorem member?_word_output (o : OutputKind) :
    member? OutputKind.all OutputKind.word o.word = some o := by
  cases o <;> decide

/-- The values that spell options out. -/
def toRaw (options : Options) : Raw where
  architecture := .string options.architecture.word
  output := .string options.output.word
  optimize := .bool options.optimize
  allowUnsafe := .bool options.allowUnsafe

theorem resolve_toRaw (options : Options) : options.toRaw.resolve = .ok options := by
  simp only [toRaw, Raw.resolve, coerceMember, coerceFlag, member?_word_architecture,
    member?_word_output]
  rfl

theorem Raw.coerce_eq_ok_iff {raw : Raw} {nesting : Json.Nesting} {options : Options} :
    raw.coerce nesting = .ok options ↔ raw.resolve = .ok options := by
  unfold coerce
  cases raw.resolve with
  | ok resolved =>
      constructor
      · intro h
        rw [Except.ok.inj h]
      · intro h
        rw [Except.ok.inj h]
        rfl
  | error mismatch =>
      constructor
      · intro h
        cases h
      · intro h
        cases h

theorem Raw.coerce_eq_error_iff {raw : Raw} {nesting : Json.Nesting} {fault : Fault} :
    raw.coerce nesting = .error fault ↔
      ∃ mismatch, raw.resolve = .error mismatch ∧ mismatch.report nesting = fault := by
  unfold coerce
  cases raw.resolve with
  | ok resolved =>
      constructor
      · intro h
        cases h
      · rintro ⟨mismatch, h, -⟩
        cases h
  | error mismatch =>
      constructor
      · intro h
        exact ⟨mismatch, rfl, Except.error.inj h⟩
      · rintro ⟨other, h, rfl⟩
        cases h
        rfl

theorem coerce_toRaw (nesting : Json.Nesting) (options : Options) :
    options.toRaw.coerce nesting = .ok options :=
  Raw.coerce_eq_ok_iff.2 (resolve_toRaw options)

/-- Options that are given by two texts and two truth values. -/
def Raw.ofWords (architecture output : String) (optimize allowUnsafe : Bool) : Raw :=
  ⟨.string architecture, .string output, .bool optimize, .bool allowUnsafe⟩

variable {architecture output : String} {optimize allowUnsafe : Bool} {nesting : Json.Nesting}

/-- Options whose choices of yes and no are truth values can be refused for the two words alone. -/
theorem exists_coerce_words_iff :
    (∃ options, (Raw.ofWords architecture output optimize allowUnsafe).coerce nesting =
        .ok options) ↔
      (member? Architecture.all Architecture.word architecture).isSome = true ∧
        (member? OutputKind.all OutputKind.word output).isSome = true := by
  simp only [Raw.coerce_eq_ok_iff]
  unfold Raw.resolve Raw.ofWords
  cases harchitecture : member? Architecture.all Architecture.word architecture with
  | none => simp [coerceMember, harchitecture, bind, Except.bind]
  | some a =>
      cases houtput : member? OutputKind.all OutputKind.word output with
      | none => simp [coerceMember, harchitecture, houtput, bind, Except.bind]
      | some o => simp [coerceMember, coerceFlag, harchitecture, houtput, bind, Except.bind]

/-- What is wrong with two words and two truth values can always be shown. -/
theorem exists_mismatch_of_words {fault : Fault}
    (h : (Raw.ofWords architecture output optimize allowUnsafe).coerce nesting = .error fault) :
    ∃ mismatch, fault = .mismatch mismatch := by
  obtain ⟨mismatch, hresolve, rfl⟩ := Raw.coerce_eq_error_iff.1 h
  have hgiven : ∃ s, mismatch.given = .string s := by
    unfold Raw.resolve Raw.ofWords at hresolve
    cases harchitecture : member? Architecture.all Architecture.word architecture with
    | none =>
        simp only [coerceMember, harchitecture, bind, Except.bind, Except.error.injEq] at hresolve
        exact ⟨_, by rw [← hresolve]⟩
    | some a =>
        cases houtput : member? OutputKind.all OutputKind.word output with
        | none =>
            simp only [coerceMember, harchitecture, houtput, bind, Except.bind, Except.error.injEq]
              at hresolve
            exact ⟨_, by rw [← hresolve]⟩
        | some o =>
            simp [coerceMember, coerceFlag, harchitecture, houtput, bind, Except.bind] at hresolve
  obtain ⟨s, hs⟩ := hgiven
  exact ⟨mismatch, by simp [Mismatch.report, hs]⟩

end Options

end SelfBuild
