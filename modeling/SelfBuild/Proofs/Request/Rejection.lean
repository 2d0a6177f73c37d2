import Mathlib.Data.List.Induction
import Mathlib.Data.String.Basic
import SelfBuild.Proofs.Request.Build
import SelfBuild.Proofs.Request.Violations

/-!
# The place that a rejection names

Of all places at which a value violates the schema of requests, a rejection names one with the shortest path,
and of these the one with the greatest path.  There is only one such place, so the order of keys in the value
makes no difference to it; neither does it to the order that comes of a request that is accepted.
-/

namespace SelfBuild

namespace Request

variable {nesting : Json.Nesting} {value value' : Json.Value} {path : List String}
variable {fields fields' : Json.Fields}

/-- The place of a violation that comes before all others: none has a shorter path, and none with a path as
short as this has a greater one. -/
structure Foremost (value : Json.Value) (path : List String) : Prop where
  violates : Violates requestSchema value path
  shortest : ∀ other, Violates requestSchema value other → path.length ≤ other.length
  greatest : ∀ other, Violates requestSchema value other → other.length = path.length → ¬ path < other

theorem Foremost.unique {other : List String} (h : Foremost value path) (hother : Foremost value other) :
    other = path := by
  have hlength : other.length = path.length :=
    Nat.le_antisymm (hother.shortest path h.violates) (h.shortest other hother.violates)
  rcases lt_trichotomy path other with hlt | heq | hgt
  · exact absurd hlt (h.greatest other hother.violates hlength)
  · exact heq.symm
  · exact absurd hgt (hother.greatest path h.violates hlength.symm)

theorem Foremost.reordered (h : Foremost value path) (hvalues : Json.Reordered value value') :
    Foremost value' path where
  violates := h.violates.reordered hvalues
  shortest other hother := h.shortest other (hother.reordered hvalues.symm)
  greatest other hother := h.greatest other (hother.reordered hvalues.symm)

/-! ## The choice among violations -/

theorem outranks_iff {a b : Violation} :
    a.outranks b = true ↔
      a.path.length < b.path.length ∨ a.path.length = b.path.length ∧ b.path < a.path := by
  simp [Violation.outranks]

theorem outranks_irrefl (v : Violation) : v.outranks v = false := by
  simp [Violation.outranks]

theorem outranks_trans {a b c : Violation} (hab : a.outranks b = true) (hbc : b.outranks c = true) :
    a.outranks c = true := by
  rw [outranks_iff] at hab hbc ⊢
  rcases hab with hab | ⟨hab, hgt⟩
  · exact .inl (by rcases hbc with hbc | ⟨hbc, -⟩ <;> omega)
  · rcases hbc with hbc | ⟨hbc, hgt'⟩
    · exact .inl (by omega)
    · exact .inr ⟨hab.trans hbc, lt_trans hgt' hgt⟩

/-- The best of what has been seen is one of it, and nothing that has been seen outranks it. -/
theorem foldl_outranks_spec (rest : List Violation) (first : Violation) :
    let best := rest.foldl (fun best v => if v.outranks best then v else best) first
    best ∈ first :: rest ∧ ∀ v ∈ first :: rest, v.outranks best = false := by
  -- From the end, so that what is compared last has everything before it in the hypothesis.
  induction rest using List.reverseRecOn with
  | nil => simp [outranks_irrefl]
  | append_singleton rest last ih =>
      obtain ⟨hmem, hnone⟩ := ih
      rw [← List.cons_append]
      simp only [List.foldl_append, List.foldl_cons, List.foldl_nil, List.mem_append, List.mem_singleton]
      split
      · rename_i hlast
        refine ⟨.inr rfl, ?_⟩
        rintro v (hseen | rfl)
        · refine Bool.eq_false_iff.2 fun hv => ?_
          have htrans := outranks_trans hv hlast
          rw [hnone v hseen] at htrans
          cases htrans
        · exact outranks_irrefl v
      · rename_i hlast
        refine ⟨.inl hmem, ?_⟩
        rintro v (hseen | rfl)
        · exact hnone v hseen
        · exact Bool.eq_false_iff.2 hlast

theorem chosen?_eq_some {reported : List Violation} {best : Violation} (h : chosen? reported = some best) :
    best ∈ reported ∧ ∀ v ∈ reported, v.outranks best = false := by
  cases reported with
  | nil => cases h
  | cons first rest =>
      cases h
      exact foldl_outranks_spec rest first

theorem foremost_of_chosen {best : Violation} (h : chosen? (violations value) = some best) :
    Foremost value best.path := by
  obtain ⟨hmem, hnone⟩ := chosen?_eq_some h
  have hbelow (other : List String) (hother : Violates requestSchema value other) :
      ¬ (other.length < best.path.length ∨ other.length = best.path.length ∧ best.path < other) := by
    obtain ⟨v, hv, rfl⟩ := exists_mem_violations_iff.2 hother
    rw [← outranks_iff, hnone v hv]
    exact Bool.false_ne_true
  exact
    { violates := exists_mem_violations_iff.1 ⟨best, hmem, rfl⟩
      shortest := fun other hother => Nat.le_of_not_lt fun hlt => hbelow other hother (.inl hlt)
      greatest := fun other hother hlength hgt => hbelow other hother (.inr ⟨hlength, hgt⟩) }

theorem validate_eq_ok_iff_not_violates :
    validate value = .ok () ↔ ∀ path, ¬ Violates requestSchema value path := by
  have hnone : violations value = [] ↔ ∀ path, ¬ Violates requestSchema value path := by
    simp only [← exists_mem_violations_iff, List.eq_nil_iff_forall_not_mem]
    exact ⟨fun h path ⟨v, hv, _⟩ => h v hv, fun h v hv => h v.path ⟨v, hv, rfl⟩⟩
  rw [← hnone]
  rcases validate_cases value with ⟨hnil, hok⟩ | ⟨hcons, v, herror⟩
  · simp [hnil, hok]
  · simp [hcons, herror]

theorem validate_eq_error {rejection : Rejection} (h : validate value = .error rejection) :
    ∃ v, rejection = .violation v ∧ Foremost value v.path := by
  unfold validate at h
  split at h
  · cases h
  · rename_i best hbest
    cases h
    exact ⟨best, rfl, foremost_of_chosen hbest⟩

/-! ## Accepted requests -/

variable {key : WideText}

theorem pick?_congr (h : ∀ key, fields'.lookup key = fields.lookup key) (keys : List String) :
    fields'.pick? keys = fields.pick? keys := by
  simp only [Json.Fields.pick?, h]

theorem OptionsRecord.plain (h : OptionsRecord fields) (hvalue : fields.lookup key = some value) :
    (∃ s, value = .string s) ∨ ∃ b, value = .bool b := by
  have hkey := h.known key (Json.Fields.mem_keys_iff.2 ⟨value, hvalue⟩)
  obtain ⟨architecture, -, ha⟩ := h.architecture
  obtain ⟨output, -, ho⟩ := h.output
  obtain ⟨optimize, hn⟩ := h.optimize
  obtain ⟨allowUnsafe, hu⟩ := h.allowUnsafe
  simp only [List.map_cons, List.map_nil, List.mem_cons, List.not_mem_nil, or_false] at hkey
  rcases hkey with rfl | rfl | rfl | rfl
  · exact .inl ⟨architecture, Option.some.inj (hvalue.symm.trans ha)⟩
  · exact .inl ⟨output, Option.some.inj (hvalue.symm.trans ho)⟩
  · exact .inr ⟨optimize, Option.some.inj (hvalue.symm.trans hn)⟩
  · exact .inr ⟨allowUnsafe, Option.some.inj (hvalue.symm.trans hu)⟩

theorem OptionsRecord.lookup_reordered (h : OptionsRecord fields)
    (hsame : Json.Reordered (.object fields) (.object fields')) (key : WideText) :
    fields'.lookup key = fields.lookup key := by
  refine hsame.lookup_eq fun value hvalue other hother => ?_
  rcases h.plain hvalue with ⟨s, rfl⟩ | ⟨b, rfl⟩
  · exact hother.eq_string
  · exact hother.eq_bool

theorem ProjectRecord.lookup_reordered (h : ProjectRecord fields)
    (hsame : Json.Reordered (.object fields) (.object fields')) (key : WideText) :
    fields'.lookup key = fields.lookup key := by
  refine hsame.lookup_eq fun value hvalue other hother => ?_
  obtain ⟨s, rfl⟩ := h.texts key value hvalue
  exact hother.eq_string

theorem validate_ok_reordered (hok : validate value = .ok ()) (h : Json.Reordered value value') :
    validate value' = .ok () := by
  rw [validate_eq_ok_iff_not_violates] at hok ⊢
  exact fun path hpath => hok path (hpath.reordered h.symm)

/-- A request that is accepted describes an order, and so does every reordering of it, the same one. -/
theorem toOrder_reordered (hok : validate value = .ok ()) (h : Json.Reordered value value')
    (nesting : Json.Nesting) (source? : Option WideText) :
    ∃ order, toOrder nesting value source? = .ok order ∧ toOrder nesting value' source? = .ok order := by
  have hok' := validate_ok_reordered hok h
  obtain ⟨fields, project, options, rfl, hrecord⟩ := (validate_eq_ok_iff value).1 hok
  obtain ⟨fields', rfl, hkeys, hwithin⟩ := h.exists_object
  obtain ⟨_, hproject', hproject⟩ := hwithin _ _ hrecord.project_eq
  obtain ⟨_, hoptions', hoptions⟩ := hwithin _ _ hrecord.options_eq
  obtain ⟨project', rfl, -⟩ := hproject.exists_object
  obtain ⟨options', rfl, -⟩ := hoptions.exists_object
  have hsource : fields'.lookup (.plain "sourceCode") = fields.lookup (.plain "sourceCode") := by
    refine h.lookup_eq fun value hvalue other hother => ?_
    obtain ⟨s, rfl⟩ := hrecord.source_text value hvalue
    exact hother.eq_string
  have hread : Options.ofRecord nesting options' = Options.ofRecord nesting options := by
    simp only [Options.ofRecord, Options.Raw.ofRecord,
      pick?_congr (hrecord.options_record.lookup_reordered hoptions)]
  have hnamed : Metadata.ofRecord project' = Metadata.ofRecord project := by
    simp only [Metadata.ofRecord, pick?_congr (hrecord.project_record.lookup_reordered hproject)]
  obtain ⟨chosen, hchosen, -⟩ := hrecord.options_record.exists_options nesting
  unfold toOrder
  simp only [hok, hok', section?, Json.Value.get?, hrecord.project_eq, hrecord.options_eq, hproject', hoptions',
    hread, hnamed, hsource, hchosen]
  exact ⟨_, rfl, rfl⟩

/-- A value is rejected exactly if it violates the schema of requests somewhere, and for a violation at the
place that comes before all others.  Reordering keys in it, at any depth, changes neither whether it is
accepted, nor the order that comes of it, nor the code and the place of the rejection. -/
theorem rejection_of_every_order (value : Json.Value) :
    (validate value = .ok () ↔ ∀ path, ¬ Violates requestSchema value path) ∧
      (∀ rejection, validate value = .error rejection →
        rejection.code = "EXF-REQ-0001" ∧
          ∃ path, rejection.place = "/".intercalate path ∧ Foremost value path) ∧
      ∀ value', Json.Reordered value value' →
        (validate value = .ok () ∧ validate value' = .ok () ∧
          ∀ nesting source?, ∃ order,
            toOrder nesting value source? = .ok order ∧ toOrder nesting value' source? = .ok order) ∨
        ∃ rejection rejection', validate value = .error rejection ∧ validate value' = .error rejection' ∧
          rejection'.code = rejection.code ∧ rejection'.place = rejection.place ∧
          ∀ nesting source?, toOrder nesting value source? = .error (.rejected rejection) ∧
            toOrder nesting value' source? = .error (.rejected rejection') := by
  refine ⟨validate_eq_ok_iff_not_violates, fun rejection hrejected => ?_, fun value' hvalues => ?_⟩
  · obtain ⟨v, rfl, hforemost⟩ := validate_eq_error hrejected
    exact ⟨rfl, v.path, rfl, hforemost⟩
  · cases hvalue : validate value with
    | ok accepted =>
        exact .inl ⟨rfl, validate_ok_reordered hvalue hvalues, toOrder_reordered hvalue hvalues⟩
    | error rejection =>
        cases hvalue' : validate value' with
        | ok accepted =>
            have hok := validate_ok_reordered hvalue' hvalues.symm
            rw [hvalue] at hok
            cases hok
        | error rejection' =>
            obtain ⟨v, rfl, hforemost⟩ := validate_eq_error hvalue
            obtain ⟨v', rfl, hforemost'⟩ := validate_eq_error hvalue'
            have hpath : v'.path = v.path := (hforemost.reordered hvalues).unique hforemost'
            refine .inr ⟨_, _, rfl, rfl, rfl, congrArg "/".intercalate hpath, fun nesting source? => ?_⟩
            simp only [toOrder, hvalue, hvalue', and_self]

/-- Two wrong choices among the options: the one that comes last by its key is named, in every order. -/
theorem rejection_of_every_order_of_wrong_choices :
    let project : Json.Value := .object [("version", .string "2"), ("projectName", .string "Calc")]
    let project' : Json.Value := .object [("projectName", .string "Calc"), ("version", .string "2")]
    let options : Json.Value := .object
      [ ("architecture", .string "ARM"), ("outputType", .null)
      , ("enableOptimization", .bool true), ("allowUnsafe", .bool false) ]
    let options' : Json.Value := .object
      [ ("allowUnsafe", .bool false), ("outputType", .null)
      , ("enableOptimization", .bool true), ("architecture", .string "ARM") ]
    let value : Json.Value := .object [("metadata", project), ("config", options)]
    let value' : Json.Value := .object [("config", options'), ("metadata", project')]
    Json.Reordered value value' ∧
      ∃ rejection rejection', validate value = .error rejection ∧ validate value' = .error rejection' ∧
        rejection.place = "config/outputType" ∧ rejection'.place = "config/outputType" := by
  intro project project' options options' value value'
  have hproject : Json.Reordered project project' := by
    refine .of_entries (by decide) (by decide) ?_
    simp only [List.forall_mem_cons]
    exact ⟨fun _ h => Option.some.inj h ▸ .same _, fun _ h => Option.some.inj h ▸ .same _, nofun⟩
  have hoptions : Json.Reordered options options' := by
    refine .of_entries (by decide) (by decide) ?_
    simp only [List.forall_mem_cons]
    exact ⟨fun _ h => Option.some.inj h ▸ .same _, fun _ h => Option.some.inj h ▸ .same _,
      fun _ h => Option.some.inj h ▸ .same _, fun _ h => Option.some.inj h ▸ .same _, nofun⟩
  have hvalues : Json.Reordered value value' := by
    refine .of_entries (by decide) (by decide) ?_
    simp only [List.forall_mem_cons]
    exact ⟨fun _ h => Option.some.inj h ▸ hproject, fun _ h => Option.some.inj h ▸ hoptions, nofun⟩
  have hrejected : validate value =
      .error (.violation ⟨["config", "outputType"], .notOneOf .null ["CONSOLE", "WINDOWED"]⟩) := by
    simp [value, project, options, validate, violations, requestShape, recordShape, unknownKeys, projectShape,
      optionsShape, textShape, wordShape, flagShape, chosen?, Violation.outranks, Architecture.all,
      OutputKind.all, Architecture.word, OutputKind.word, List.lookup_cons]
    decide
  obtain ⟨hok, -⟩ | ⟨rejection, rejection', hrejection, hrejection', -, hplace, -⟩ :=
    (rejection_of_every_order value).2.2 value' hvalues
  · rw [hrejected] at hok
    cases hok
  · rw [hrejected] at hrejection
    cases hrejection
    exact ⟨hvalues, _, rejection', hrejected, hrejection', by decide, hplace.trans (by decide)⟩

end Request

end SelfBuild
