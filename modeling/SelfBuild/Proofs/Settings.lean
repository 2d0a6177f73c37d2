import SelfBuild.Proofs.Disk.Files
import SelfBuild.Proofs.Json.Writing
import SelfBuild.Proofs.Stages
import SelfBuild.Settings

/-!
# Settings that cannot be loaded

Most reasons why there are no settings say what a user has to mend in a file or in the environment.  Three
kinds are of another sort, and whoever asks for settings may not expect them: a file whose containers are
nested too deeply for the reader, a number that is given by a value which stands for no number, and a path
that the system refuses to look up.  All depend on the file alone; nothing else in the environment brings
them about or prevents them.
-/

namespace SelfBuild

namespace Settings

variable {nesting : Json.Nesting} {disk : Disk} {home : Path.Homes} {path : String}
variable {environment : Environment} {settings : Settings}
variable {fields : Json.Fields} {key : WideText} {value : Json.Value}

/-- The values that no number can be made of: nulls, containers, and integers beyond the range of
floating-point numbers. -/
inductive Numberless : Json.Value → Prop
  | null : Numberless .null
  | int {n : Int} (h : (Decimal.toFloat ⟨n.natAbs, 0⟩).isInf = true) : Numberless (.int n)
  | array (items : List Json.Value) : Numberless (.array items)
  | object (fields : Json.Fields) : Numberless (.object fields)

def NumberFault.isUnexpected : NumberFault → Bool
  | .unreadable _ => false
  | .notANumber _ => true
  | .tooLarge => true

/-- Whether a fault is of the sort that is not expected of a settings file. -/
def Fault.isUnexpected : Fault → Bool
  | .beyondLimits fault => fault.isExhaustion
  | .number fault => fault.isUnexpected
  | _ => false

/-- A settings file that nobody expects: it is nested too deeply, or it is a record in which the first
number that cannot be made is given by a value that stands for none. -/
inductive Unexpected (nesting : Json.Nesting) (disk : Disk) (home : Path.Homes) (path : String) : Prop
  | tooDeep {text : String}
      (htext : disk.readText (Path.ofString (Path.expandHome home path)) = .ok text)
      (hdeep : Json.TooDeep nesting text)
  | timeout {fields : Json.Fields} {value : Json.Value}
      (hfields : readFile nesting disk home path = .ok fields)
      (hvalue : fields.lookup "timeout" = some value) (hnumber : Numberless value)
  | temperature {fields : Json.Fields} {value : Json.Value}
      (hfields : readFile nesting disk home path = .ok fields)
      (htimeout : ∀ value, fields.lookup "timeout" = some value → ∃ x, number value = .ok x)
      (hvalue : fields.lookup "temperature" = some value) (hnumber : Numberless value)

/-- Whether a fault is that the system refuses to look for a settings file. -/
def Fault.isRefusal : Fault → Bool
  | .unreadable (.disk fault) => fault.isSystem
  | _ => false

/-- A settings file that cannot be looked for, as its path or a name on it is too long. -/
def Unsearchable (disk : Disk) (home : Path.Homes) (path : String) : Prop :=
  let expanded := Path.ofString (Path.expandHome home path)
  expanded.hasNul = false ∧ disk.find expanded = .error .nameTooLong

/-! ## Numbers -/

theorem number_unexpected_iff :
    (∃ fault, number value = .error fault ∧ fault.isUnexpected = true) ↔ Numberless value := by
  constructor
  · rintro ⟨fault, hnumber, hfault⟩
    cases value with
    | null => exact .null
    | bool b => cases hnumber
    | int n =>
        unfold number numberOfInt at hnumber
        dsimp only at hnumber
        split at hnumber
        · rename_i hinf
          exact .int hinf
        · cases hnumber
    | float x => cases hnumber
    | string s =>
        unfold number numberOfText at hnumber
        dsimp only at hnumber
        split at hnumber
        · cases hnumber
        · cases hnumber
          cases hfault
    | array items => exact .array items
    | object fields => exact .object fields
  · intro h
    cases h with
    | null => exact ⟨_, rfl, rfl⟩
    | int hinf => exact ⟨.tooLarge, by simp [number, numberOfInt, hinf], rfl⟩
    | array items => exact ⟨_, rfl, rfl⟩
    | object fields => exact ⟨_, rfl, rfl⟩

theorem numberOr_unexpected_iff (default : Json.Value) :
    (∃ fault, numberOr default fields key = .error fault ∧ fault.isUnexpected = true) ↔
      ∃ value, fields.lookup key = some value ∧ Numberless value := by
  unfold numberOr
  cases fields.lookup key with
  | none => simp
  | some value =>
      simp only [Option.some.injEq, exists_eq_left', ← number_unexpected_iff]
      cases number value with
      | ok x => simp
      | error fault => simp [Fault.isUnexpected]

theorem numberOr_eq_error {default : Json.Value} {fault : Fault}
    (h : numberOr default fields key = .error fault) : ∃ number, fault = .number number := by
  unfold numberOr at h
  split at h
  · cases h
  · split at h
    · cases h
    · cases h
      exact ⟨_, rfl⟩

theorem numberOr_eq_ok_iff (default : Json.Value) :
    (∃ made, numberOr default fields key = .ok made) ↔
      ∀ value, fields.lookup key = some value → ∃ x, number value = .ok x := by
  unfold numberOr
  cases fields.lookup key with
  | none => simp
  | some value =>
      simp only [Option.some.injEq, forall_eq']
      cases number value <;> simp

/-! ## Files -/

/-- Why a settings file cannot be read, step by step. -/
inductive ReadFails (nesting : Json.Nesting) (disk : Disk) (home : Path.Homes) (path : String) : Fault → Prop
  | refused {fault : Disk.Fault}
      (hfile : disk.isFile (Path.ofString (Path.expandHome home path)) = .error fault) :
      ReadFails nesting disk home path (.unreadable (.disk fault))
  | missing (hfile : disk.isFile (Path.ofString (Path.expandHome home path)) = .ok false) :
      ReadFails nesting disk home path (.missing path)
  | unreadable {fault : Disk.ReadFault}
      (hfile : disk.isFile (Path.ofString (Path.expandHome home path)) = .ok true)
      (htext : disk.readText (Path.ofString (Path.expandHome home path)) = .error fault) :
      ReadFails nesting disk home path (.unreadable fault)
  | notRecord {text : String} {value : Json.Value}
      (htext : disk.readText (Path.ofString (Path.expandHome home path)) = .ok text)
      (hread : Json.read nesting text = .ok value) (hvalue : ∀ fields, value ≠ .object fields) :
      ReadFails nesting disk home path (.notRecord path)
  | malformed {text : String} {fault : Json.Fault}
      (htext : disk.readText (Path.ofString (Path.expandHome home path)) = .ok text)
      (hread : Json.read nesting text = .error fault) (hform : fault.isSyntax = true) :
      ReadFails nesting disk home path (.malformed path fault)
  | beyondLimits {text : String} {fault : Json.Fault}
      (htext : disk.readText (Path.ofString (Path.expandHome home path)) = .ok text)
      (hread : Json.read nesting text = .error fault) (hform : fault.isSyntax = false) :
      ReadFails nesting disk home path (.beyondLimits fault)

theorem readFile_eq_error {fault : Fault} (h : readFile nesting disk home path = .error fault) :
    ReadFails nesting disk home path fault := by
  unfold readFile at h
  dsimp only at h
  split at h
  · rename_i stop hfile
    cases h
    exact .refused hfile
  · rename_i hfile
    cases h
    exact .missing hfile
  · rename_i hfile
    split at h
    · rename_i stop htext
      cases h
      exact .unreadable hfile htext
    · rename_i text htext
      split at h
      · cases h
      · rename_i value hvalue hread
        cases h
        exact .notRecord htext hread hvalue
      · rename_i stop hread
        split at h
        · rename_i hform
          cases h
          exact .malformed htext hread hform
        · rename_i hform
          cases h
          exact .beyondLimits htext hread (Bool.eq_false_iff.2 hform)

theorem readFile_unexpected_iff :
    (∃ fault, readFile nesting disk home path = .error fault ∧ fault.isUnexpected = true) ↔
      ∃ text, disk.readText (Path.ofString (Path.expandHome home path)) = .ok text ∧
        Json.TooDeep nesting text := by
  constructor
  · rintro ⟨fault, hread, hfault⟩
    cases readFile_eq_error hread with
    | beyondLimits htext hstop =>
        obtain ⟨container, rfl⟩ := Json.isExhaustion_iff.1 hfault
        exact ⟨_, htext, container, hstop⟩
    | _ => cases hfault
  · rintro ⟨text, htext, container, hdeep⟩
    refine ⟨.beyondLimits (.tooDeep container), ?_, rfl⟩
    unfold readFile
    simp only [Disk.isFile_of_readText htext, htext, hdeep]
    rfl

theorem readFile_refusal_iff :
    (∃ fault, readFile nesting disk home path = .error fault ∧ fault.isRefusal = true) ↔
      Unsearchable disk home path := by
  constructor
  · rintro ⟨fault, hread, hfault⟩
    cases readFile_eq_error hread with
    | refused hfile =>
        obtain ⟨hnul, hfind, -⟩ := Disk.isFile_eq_error_iff.1 hfile
        exact ⟨hnul, hfind⟩
    | @unreadable stop hfile htext =>
        cases stop with
        | disk fault => exact absurd htext (Disk.readText_ne_disk_of_isFile hfile)
        | encoding fault => cases hfault
    | _ => cases hfault
  · rintro ⟨hnul, hfind⟩
    have hfile := Disk.isFile_eq_error_iff.2 ⟨hnul, hfind, rfl⟩
    have hread : readFile nesting disk home path = .error (.unreadable (.disk (.system .nameTooLong
        (Path.ofString (Path.expandHome home path)) none))) := by
      simp only [readFile, hfile]
    exact ⟨_, hread, rfl⟩

theorem withFields_eq_error {fault : Fault} (h : withFields settings fields = .error fault) :
    ∃ number, fault = .number number := by
  unfold withFields at h
  simp only [bind_eq_error_iff, reduceCtorEq, and_false, exists_const, or_false] at h
  rcases h with htimeout | ⟨timeout, -, htemperature⟩
  · exact numberOr_eq_error htimeout
  · exact numberOr_eq_error htemperature

theorem withFields_unexpected_iff :
    (∃ fault, withFields settings fields = .error fault ∧ fault.isUnexpected = true) ↔
      (∃ value, fields.lookup "timeout" = some value ∧ Numberless value) ∨
        (∀ value, fields.lookup "timeout" = some value → ∃ x, number value = .ok x) ∧
          ∃ value, fields.lookup "temperature" = some value ∧ Numberless value := by
  rw [← numberOr_unexpected_iff settings.timeout, ← numberOr_eq_ok_iff settings.timeout,
    ← numberOr_unexpected_iff settings.temperature]
  unfold withFields
  cases numberOr settings.timeout fields "timeout" with
  | error fault => simp [bind, Except.bind]
  | ok timeout =>
      cases numberOr settings.temperature fields "temperature" <;> simp [bind, Except.bind]

/-- A written record is unexpected where it gives a value for the waiting time that is no number. -/
theorem unexpected_of_writeObject {depth : Nat} {items : List Json.Item}
    (hitems : ∀ item ∈ items, Json.Writes depth item.text item.value)
    (hdepth : depth < nesting.depth)
    (htext : disk.readText (Path.ofString (Path.expandHome home path)) =
      .ok (String.ofList (Json.writeObject (items.map Json.Item.written))))
    (hvalue : (Json.putItems [] items).lookup "timeout" = some value) (hnumber : Numberless value) :
    Unexpected nesting disk home path := by
  refine .timeout ?_ hvalue hnumber
  simp only [readFile, Disk.isFile_of_readText htext, htext, Json.read_writeObject hitems hdepth]

/-- For example, a record whose one field is a null for the waiting time is unexpected. -/
theorem unexpected_of_null_timeout
    (htext : disk.readText (Path.ofString (Path.expandHome home path)) =
      .ok "\x7b\"timeout\":null\x7d") :
    Unexpected nesting disk home path := by
  let items : List Json.Item := [{ key := "timeout", text := "null".toList, value := .null }]
  have hitems : ∀ item ∈ items, Json.Writes 0 item.text item.value := by
    simpa [items] using Json.writes_null
  have hwritten : String.ofList (Json.writeObject (items.map Json.Item.written)) =
      "\x7b\"timeout\":null\x7d" := by decide
  rw [← hwritten] at htext
  exact unexpected_of_writeObject hitems (Nat.lt_of_lt_of_le (by decide) nesting.enough) htext rfl .null

/-! ## The environment -/

theorem numberOfText_expected {s : String} {fault : NumberFault}
    (h : numberOfText s = .error fault) : fault.isUnexpected = false := by
  unfold numberOfText at h
  split at h
  · cases h
  · cases h
    rfl

/-- Whatever is wrong with the environment is a text for a number, which is expected. -/
theorem withEnvironment_eq_error {fault : Fault}
    (h : settings.withEnvironment environment = .error fault) :
    ∃ number, fault = .number number ∧ number.isUnexpected = false := by
  unfold withEnvironment at h
  cases hgiven : given? environment "EXEFORGE_TIMEOUT" with
  | none => simp [hgiven, bind, Except.bind] at h
  | some text =>
      cases hnumber : numberOfText text with
      | ok x => simp [hgiven, hnumber, bind, Except.bind] at h
      | error number =>
          simp only [hgiven, hnumber, bind, Except.bind, Except.error.injEq] at h
          exact ⟨number, h.symm, numberOfText_expected hnumber⟩

/-! ## Loading -/

/-- What is unexpected of a file shows when it is read or when its numbers are made. -/
theorem unexpected_iff (settings : Settings) :
    Unexpected nesting disk home path ↔
      (∃ fault, readFile nesting disk home path = .error fault ∧ fault.isUnexpected = true) ∨
        ∃ fields, readFile nesting disk home path = .ok fields ∧
          ∃ fault, withFields settings fields = .error fault ∧ fault.isUnexpected = true := by
  simp only [readFile_unexpected_iff, withFields_unexpected_iff]
  constructor
  · intro h
    cases h with
    | tooDeep htext hdeep => exact .inl ⟨_, htext, hdeep⟩
    | timeout hfields hvalue hnumber => exact .inr ⟨_, hfields, .inl ⟨_, hvalue, hnumber⟩⟩
    | temperature hfields htimeout hvalue hnumber =>
        exact .inr ⟨_, hfields, .inr ⟨htimeout, _, hvalue, hnumber⟩⟩
  · rintro (⟨text, htext, hdeep⟩ | ⟨fields, hfields, hvalues⟩)
    · exact .tooDeep htext hdeep
    · rcases hvalues with ⟨value, hvalue, hnumber⟩ | ⟨htimeout, value, hvalue, hnumber⟩
      · exact .timeout hfields hvalue hnumber
      · exact .temperature hfields htimeout hvalue hnumber

/-- What is so of a fault of loading is so of a fault of the file, if it is not so of any text for a
number. -/
theorem load_error_iff {path? : Option String} (p : Fault → Bool)
    (hnumber : ∀ number : NumberFault, number.isUnexpected = false → p (.number number) = false) :
    (∃ fault, load nesting disk home path? environment = .error fault ∧ p fault = true) ↔
      ∃ path, file? path? environment = some path ∧
        ((∃ fault, readFile nesting disk home path = .error fault ∧ p fault = true) ∨
          ∃ fields, readFile nesting disk home path = .ok fields ∧
            ∃ fault, withFields {} fields = .error fault ∧ p fault = true) := by
  have henvironment (settings : Settings) :
      ¬ ∃ fault, settings.withEnvironment environment = .error fault ∧ p fault = true := by
    rintro ⟨fault, hfault, hp⟩
    obtain ⟨number, rfl, hexpected⟩ := withEnvironment_eq_error hfault
    rw [hnumber number hexpected] at hp
    cases hp
  unfold load
  cases file? path? environment with
  | none => simpa [bind, Except.bind] using henvironment {}
  | some path =>
      simp only [Option.some.injEq, exists_eq_left']
      cases readFile nesting disk home path with
      | error fault => simp [bind, Except.bind]
      | ok fields =>
          cases hmade : withFields {} fields with
          | error fault => simp [bind, Except.bind, hmade]
          | ok settings => simpa [bind, Except.bind, hmade] using henvironment settings

/-- Loading ends with an unexpected fault exactly when the file that is asked for is an unexpected one. -/
theorem load_unexpected_iff {path? : Option String} :
    (∃ fault, load nesting disk home path? environment = .error fault ∧ fault.isUnexpected = true) ↔
      ∃ path, file? path? environment = some path ∧ Unexpected nesting disk home path := by
  simp only [load_error_iff Fault.isUnexpected fun _ h => h, unexpected_iff {}]

/-- Loading ends with a refusal exactly when the file that is asked for cannot be looked for. -/
theorem load_refusal_iff {path? : Option String} :
    (∃ fault, load nesting disk home path? environment = .error fault ∧ fault.isRefusal = true) ↔
      ∃ path, file? path? environment = some path ∧ Unsearchable disk home path := by
  have hfields (fields : Json.Fields) :
      ¬ ∃ fault, withFields {} fields = .error fault ∧ fault.isRefusal = true := by
    rintro ⟨fault, hfault, hrefusal⟩
    obtain ⟨number, rfl⟩ := withFields_eq_error hfault
    cases hrefusal
  simp only [load_error_iff Fault.isRefusal fun _ _ => rfl, readFile_refusal_iff, hfields, and_false,
    exists_false, or_false]

end Settings

end SelfBuild
