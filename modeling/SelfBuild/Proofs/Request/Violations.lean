import Mathlib.Data.List.Forall2
import SelfBuild.Proofs.Json.Reordered
import SelfBuild.Proofs.Request.Shape

/-!
# Where a value violates a schema

A schema says what a value has to be like, and a value violates it at some places: at its own place, or under
a key for which the schema has an entry.  A shape follows a schema when it reports exactly these places, and
the shape of requests follows the schema of requests.  The order of keys is nothing that a schema asks for.
-/

namespace SelfBuild

namespace Request

/-- What values have to be like. -/
inductive Schema where
  | text
  | flag
  | oneOf (words : List String)
  | record (required : List String) (entries : List (String × Schema))

/-- A value violates a schema at the place to which a path of keys leads. -/
inductive Violates : Schema → Json.Value → List String → Prop
  | notText {value : Json.Value} (h : ∀ s, value ≠ .string s) : Violates .text value []
  | notFlag {value : Json.Value} (h : ∀ b, value ≠ .bool b) : Violates .flag value []
  | notOneOf {words : List String} {value : Json.Value} (h : ∀ word ∈ words, value ≠ .string word) :
      Violates (.oneOf words) value []
  | notRecord {required : List String} {entries : List (String × Schema)} {value : Json.Value}
      (h : ∀ fields, value ≠ .object fields) : Violates (.record required entries) value []
  | missing {required : List String} {entries : List (String × Schema)} {fields : Json.Fields} {key : String}
      (hkey : key ∈ required) (habsent : .plain key ∉ fields.map Prod.fst) :
      Violates (.record required entries) (.object fields) []
  | unexpected {required : List String} {entries : List (String × Schema)} {fields : Json.Fields}
      {key : WideText} (hkey : key ∈ fields.map Prod.fst)
      (hunknown : key ∉ (entries.map Prod.fst).map WideText.plain) :
      Violates (.record required entries) (.object fields) []
  | within {required : List String} {entries : List (String × Schema)} {fields : Json.Fields} {key : String}
      {schema : Schema} {value : Json.Value} {path : List String} (hentry : (key, schema) ∈ entries)
      (hvalue : fields.lookup (.plain key) = some value) (h : Violates schema value path) :
      Violates (.record required entries) (.object fields) (key :: path)

def projectSchema : Schema :=
  .record ["projectName"]
    [ ("projectName", .text)
    , ("version", .text)
    , ("author", .text)
    , ("copyright", .text)
    , ("description", .text) ]

def optionsSchema : Schema :=
  .record ["architecture", "outputType", "enableOptimization", "allowUnsafe"]
    [ ("architecture", .oneOf ["ANYCPU", "X64", "X86"])
    , ("outputType", .oneOf ["CONSOLE", "WINDOWED"])
    , ("enableOptimization", .flag)
    , ("allowUnsafe", .flag) ]

def requestSchema : Schema :=
  .record ["metadata", "config"]
    [("metadata", projectSchema), ("config", optionsSchema), ("sourceCode", .text)]

/-- A shape reports violations at the places where a schema is violated, and nowhere else. -/
def Shape.Follows (shape : Shape) (schema : Schema) : Prop :=
  ∀ (base : List String) (value : Json.Value) (place : List String),
    (∃ v ∈ shape base value, v.path = place) ↔ ∃ path, Violates schema value path ∧ place = base ++ path

variable {schema : Schema} {value value' : Json.Value} {path : List String} {fields : Json.Fields}

/-! ## The order of keys -/

theorem Violates.reordered (h : Violates schema value path) (hvalues : Json.Reordered value value') :
    Violates schema value' path := by
  induction h generalizing value' with
  | notText h =>
      refine .notText fun s hs => h s ?_
      subst hs
      exact hvalues.symm.eq_string
  | notFlag h =>
      refine .notFlag fun b hb => h b ?_
      subst hb
      exact hvalues.symm.eq_bool
  | notOneOf h =>
      refine .notOneOf fun word hword hs => h word hword ?_
      subst hs
      exact hvalues.symm.eq_string
  | notRecord h =>
      refine .notRecord fun fields hfields => ?_
      subst hfields
      obtain ⟨fields, rfl, -⟩ := hvalues.symm.exists_object
      exact h fields rfl
  | missing hkey habsent =>
      obtain ⟨fields, rfl, hkeys, -⟩ := hvalues.exists_object
      exact .missing hkey ((hkeys _).not.2 habsent)
  | unexpected hkey hunknown =>
      obtain ⟨fields, rfl, hkeys, -⟩ := hvalues.exists_object
      exact .unexpected ((hkeys _).2 hkey) hunknown
  | within hentry hvalue _ ih =>
      obtain ⟨fields, rfl, -, hwithin⟩ := hvalues.exists_object
      obtain ⟨other, hother, hsame⟩ := hwithin _ _ hvalue
      exact .within hentry hother (ih hsame)

/-! ## Plain shapes -/

theorem violates_text_iff : Violates .text value path ↔ (¬ ∃ s, value = .string s) ∧ path = [] := by
  constructor
  · intro h
    cases h with
    | notText h => exact ⟨fun ⟨s, hs⟩ => h s hs, rfl⟩
  · rintro ⟨h, rfl⟩
    exact .notText (not_exists.1 h)

theorem violates_flag_iff : Violates .flag value path ↔ (¬ ∃ b, value = .bool b) ∧ path = [] := by
  constructor
  · intro h
    cases h with
    | notFlag h => exact ⟨fun ⟨b, hb⟩ => h b hb, rfl⟩
  · rintro ⟨h, rfl⟩
    exact .notFlag (not_exists.1 h)

theorem violates_oneOf_iff {words : List String} :
    Violates (.oneOf words) value path ↔ (¬ ∃ word ∈ words, value = .string word) ∧ path = [] := by
  constructor
  · intro h
    cases h with
    | notOneOf h => exact ⟨fun ⟨word, hword, hs⟩ => h word hword hs, rfl⟩
  · rintro ⟨h, rfl⟩
    exact .notOneOf fun word hword hs => h ⟨word, hword, hs⟩

/-- A shape that reports at most one violation, and that at the place of the value itself. -/
theorem Shape.follows_of_plain {shape : Shape}
    (hplain : ∀ base value, shape base value = [] ∨ ∃ cause, shape base value = [⟨base, cause⟩])
    (hviolates : ∀ base value path, Violates schema value path ↔ ¬ shape base value = [] ∧ path = []) :
    shape.Follows schema := by
  intro base value place
  simp only [hviolates base, and_assoc, exists_and_left, exists_eq_left, List.append_nil]
  rcases hplain base value with hnil | ⟨cause, hone⟩
  · simp [hnil]
  · simp [hone, eq_comm]

theorem textShape_follows : Shape.Follows textShape .text := by
  refine Shape.follows_of_plain (fun base value => ?_) fun base value path => ?_
  · cases value <;> simp [textShape]
  · rw [violates_text_iff, textShape_eq_nil_iff]

theorem flagShape_follows : Shape.Follows flagShape .flag := by
  refine Shape.follows_of_plain (fun base value => ?_) fun base value path => ?_
  · cases value <;> simp [flagShape]
  · rw [violates_flag_iff, flagShape_eq_nil_iff]

theorem wordShape_follows (words : List String) : Shape.Follows (wordShape words) (.oneOf words) := by
  refine Shape.follows_of_plain (fun base value => ?_) fun base value path => ?_
  · cases value with
    | string s =>
        by_cases h : (words.map WideText.plain).contains s = true <;> simp only [wordShape, h] <;> simp
    | _ => simp [wordShape]
  · rw [violates_oneOf_iff, wordShape_eq_nil_iff]

/-! ## Records -/

theorem violates_record_iff {required : List String} {entries : List (String × Schema)} :
    Violates (.record required entries) (.object fields) path ↔
      path = [] ∧ (∃ key ∈ required, .plain key ∉ fields.map Prod.fst) ∨
        path = [] ∧ (∃ key ∈ fields.map Prod.fst, key ∉ (entries.map Prod.fst).map WideText.plain) ∨
        ∃ entry ∈ entries, ∃ value, fields.lookup (.plain entry.1) = some value ∧
          ∃ rest, Violates entry.2 value rest ∧ path = entry.1 :: rest := by
  constructor
  · intro h
    cases h with
    | notRecord h => exact absurd rfl (h fields)
    | missing hkey habsent => exact .inl ⟨rfl, _, hkey, habsent⟩
    | unexpected hkey hunknown => exact .inr (.inl ⟨rfl, _, hkey, hunknown⟩)
    | within hentry hvalue h => exact .inr (.inr ⟨_, hentry, _, hvalue, _, h, rfl⟩)
  · rintro (⟨rfl, key, hkey, habsent⟩ | ⟨rfl, key, hkey, hunknown⟩ |
      ⟨entry, hentry, value, hvalue, rest, h, rfl⟩)
    · exact .missing hkey habsent
    · exact .unexpected hkey hunknown
    · exact .within hentry hvalue h

/-- Of two lists that belong together, both have a member of some kind or neither has one. -/
theorem exists_mem_congr {α β : Type} {R : α → β → Prop} {p : α → Prop} {q : β → Prop} {as : List α}
    {bs : List β} (h : List.Forall₂ R as bs) (hpq : ∀ a b, R a b → (p a ↔ q b)) :
    (∃ a ∈ as, p a) ↔ ∃ b ∈ bs, q b := by
  induction h with
  | nil => simp
  | cons hab _ ih => simp [hpq _ _ hab, ih]

theorem map_fst_eq_of_follows {shapes : List (String × Shape)} {entries : List (String × Schema)}
    (h : List.Forall₂ (fun shape entry => shape.1 = entry.1 ∧ shape.2.Follows entry.2) shapes entries) :
    shapes.map Prod.fst = entries.map Prod.fst := by
  induction h with
  | nil => rfl
  | cons hhead _ ih => rw [List.map_cons, List.map_cons, hhead.1, ih]

/-- A record reports at its own place what is missing and what is unknown, and then what its fields report. -/
theorem exists_mem_recordShape_iff {required : List String} {shapes : List (String × Shape)}
    {base place : List String} :
    (∃ v ∈ recordShape required shapes base (.object fields), v.path = place) ↔
      place = base ∧ (∃ key ∈ required, .plain key ∉ fields.map Prod.fst) ∨
        place = base ∧ (∃ key ∈ fields.map Prod.fst, key ∉ (shapes.map Prod.fst).map WideText.plain) ∨
        ∃ entry ∈ shapes, ∃ value, fields.lookup (.plain entry.1) = some value ∧
          ∃ v ∈ entry.2 (base ++ [entry.1]) value, v.path = place := by
  have habsent (key : String) :
      (fields.lookup (.plain key)).isNone = true ↔ .plain key ∉ fields.map Prod.fst := by
    rw [Json.Fields.mem_keys_iff]
    cases fields.lookup (.plain key) <;> simp
  have hunknown : (∃ key ∈ fields.map Prod.fst, key ∉ (shapes.map Prod.fst).map WideText.plain) ↔
      unknownKeys (shapes.map Prod.fst) fields ≠ [] := by
    rw [ne_eq, unknownKeys_eq_nil_iff]
    simp
  rw [hunknown]
  simp only [recordShape, List.mem_append, or_and_right, exists_or, or_assoc]
  refine or_congr ?_ (or_congr ?_ ?_)
  · simp only [List.mem_map, List.mem_filter, habsent]
    constructor
    · rintro ⟨_, ⟨key, hkey, rfl⟩, rfl⟩
      exact ⟨rfl, key, hkey⟩
    · rintro ⟨rfl, key, hkey⟩
      exact ⟨_, ⟨key, hkey, rfl⟩, rfl⟩
  · by_cases h : unknownKeys (shapes.map Prod.fst) fields = [] <;> simp [h, eq_comm]
  · simp only [List.mem_flatMap]
    constructor
    · rintro ⟨v, ⟨entry, hentry, hv⟩, rfl⟩
      cases hvalue : fields.lookup (.plain entry.1) with
      | none => simp [hvalue] at hv
      | some value =>
          simp only [hvalue] at hv
          exact ⟨entry, hentry, value, hvalue, v, hv, rfl⟩
    · rintro ⟨entry, hentry, value, hvalue, v, hv, rfl⟩
      exact ⟨v, ⟨entry, hentry, by simpa only [hvalue] using hv⟩, rfl⟩

theorem recordShape_follows {required : List String} {shapes : List (String × Shape)}
    {entries : List (String × Schema)}
    (h : List.Forall₂ (fun shape entry => shape.1 = entry.1 ∧ shape.2.Follows entry.2) shapes entries) :
    Shape.Follows (recordShape required shapes) (.record required entries) := by
  intro base value place
  cases value with
  | object fields =>
      have hfields : (∃ entry ∈ shapes, ∃ value, fields.lookup (.plain entry.1) = some value ∧
            ∃ v ∈ entry.2 (base ++ [entry.1]) value, v.path = place) ↔
          ∃ entry ∈ entries, ∃ value, fields.lookup (.plain entry.1) = some value ∧
            ∃ rest, Violates entry.2 value rest ∧ place = base ++ entry.1 :: rest := by
        refine exists_mem_congr h fun shape entry ⟨hkey, hfollows⟩ => exists_congr fun value => ?_
        rw [hfollows, hkey]
        simp only [List.append_assoc, List.singleton_append]
      rw [exists_mem_recordShape_iff, hfields, map_fst_eq_of_follows h]
      constructor
      · rintro (⟨rfl, hmissing⟩ | ⟨rfl, hunknown⟩ | ⟨entry, hentry, value, hvalue, rest, hrest, rfl⟩)
        · exact ⟨[], violates_record_iff.2 (.inl ⟨rfl, hmissing⟩), (List.append_nil _).symm⟩
        · exact ⟨[], violates_record_iff.2 (.inr (.inl ⟨rfl, hunknown⟩)), (List.append_nil _).symm⟩
        · exact ⟨entry.1 :: rest, .within hentry hvalue hrest, rfl⟩
      · rintro ⟨path, hpath, rfl⟩
        rcases violates_record_iff.1 hpath with ⟨rfl, hmissing⟩ | ⟨rfl, hunknown⟩ | ⟨entry, hentry, value,
          hvalue, rest, hrest, rfl⟩
        · exact .inl ⟨List.append_nil _, hmissing⟩
        · exact .inr (.inl ⟨List.append_nil _, hunknown⟩)
        · exact .inr (.inr ⟨entry, hentry, value, hvalue, rest, hrest, rfl⟩)
  | _ =>
      constructor
      · rintro ⟨v, hv, rfl⟩
        obtain rfl : v = _ := List.mem_singleton.1 hv
        exact ⟨[], .notRecord nofun, (List.append_nil _).symm⟩
      · rintro ⟨path, hpath, rfl⟩
        cases hpath with
        | notRecord h => exact ⟨_, List.mem_singleton.2 rfl, (List.append_nil _).symm⟩

theorem requestShape_follows : Shape.Follows requestShape requestSchema := by
  refine recordShape_follows (.cons ⟨rfl, ?_⟩ (.cons ⟨rfl, ?_⟩ (.cons ⟨rfl, textShape_follows⟩ .nil)))
  · exact recordShape_follows (.cons ⟨rfl, textShape_follows⟩ (.cons ⟨rfl, textShape_follows⟩
      (.cons ⟨rfl, textShape_follows⟩ (.cons ⟨rfl, textShape_follows⟩ (.cons ⟨rfl, textShape_follows⟩ .nil)))))
  · exact recordShape_follows (.cons ⟨rfl, wordShape_follows _⟩ (.cons ⟨rfl, wordShape_follows _⟩
      (.cons ⟨rfl, flagShape_follows⟩ (.cons ⟨rfl, flagShape_follows⟩ .nil))))

/-- The report names the places at which a value violates the schema of requests. -/
theorem exists_mem_violations_iff :
    (∃ v ∈ violations value, v.path = path) ↔ Violates requestSchema value path := by
  rw [violations, requestShape_follows]
  simp

end Request

end SelfBuild
