import SelfBuild.Proofs.Settings

/-!
# Where each setting comes from

The settings are put together in layers: the fields of the file in use lie over the defaults, and the
variables of the environment over both.  Each layer is known by the values that its source gives, and depends
on nothing else of that source.  Both layers are one overlay with different sources, and loading is one after
the other.  The home directory, which the path of a file may start from, is not taken from these variables.
-/

namespace SelfBuild

namespace Settings

variable {nesting : Json.Nesting} {disk : Disk} {home : Path.Homes} {path : String}
variable {path? : Option String} {environment : Environment}
variable {base settings : Settings} {fields : Json.Fields}
variable {default made : Json.Value} {value? : Option Json.Value}

/-- The record of the settings file in use; where no file is used, it is empty. -/
inductive InUse (nesting : Json.Nesting) (disk : Disk) (home : Path.Homes) :
    Option String → Json.Fields → Prop
  | nothing : InUse nesting disk home none []
  | file {path text : String} {fields : Json.Fields}
      (htext : disk.readText (Path.ofString (Path.expandHome home path)) = .ok text)
      (hread : Json.read nesting text = .ok (.object fields)) : InUse nesting disk home (some path) fields

/-- A setting that is the number of the value that is given, or the default if none is. -/
inductive NumberOf (default : Json.Value) : Option Json.Value → Json.Value → Prop
  | default : NumberOf default none default
  | given {value : Json.Value} {x : Float} (h : number value = .ok x) :
      NumberOf default (some value) (.float x)

/-- The values that a source gives for some of the settings. -/
structure Given where
  apiKey : Option Json.Value
  model : Option Json.Value
  apiBase : Option Json.Value
  timeout : Option Json.Value
  temperature : Option Json.Value

/-- The value that a variable gives. -/
def ofPlain (s : String) : Json.Value := .string s

def Given.ofFields (fields : Json.Fields) : Given where
  apiKey := fields.lookup "api_key"
  model := fields.lookup "model"
  apiBase := fields.lookup "api_base"
  timeout := fields.lookup "timeout"
  temperature := fields.lookup "temperature"

def Given.ofEnvironment (environment : Environment) : Given where
  apiKey := ((given? environment "GEMINI_API_KEY").or (given? environment "API_KEY")).map ofPlain
  model := (given? environment "EXEFORGE_MODEL").map ofPlain
  apiBase := ((given? environment "EXEFORGE_API_BASE").map dropSlashes).map ofPlain
  timeout := (given? environment "EXEFORGE_TIMEOUT").map ofPlain
  temperature := none

/-- What the upper of two sources gives, or else the lower one. -/
def Given.or (upper lower : Given) : Given where
  apiKey := upper.apiKey.or lower.apiKey
  model := upper.model.or lower.model
  apiBase := upper.apiBase.or lower.apiBase
  timeout := upper.timeout.or lower.timeout
  temperature := upper.temperature.or lower.temperature

def numberGiven (default : Json.Value) : Option Json.Value → Except Fault Json.Value
  | none => .ok default
  | some value =>
      match number value with
      | .ok x => .ok (.float x)
      | .error fault => .error (.number fault)

/-- One layer: what a source gives, over some other settings. -/
def overlay (base : Settings) (source : Given) : Except Fault Settings := do
  let timeout ← numberGiven base.timeout source.timeout
  let temperature ← numberGiven base.temperature source.temperature
  .ok
    { apiKey := source.apiKey.getD base.apiKey
      model := source.model.getD base.model
      apiBase := source.apiBase.getD base.apiBase
      timeout := timeout
      temperature := temperature }

/-- What an overlay comes to, setting by setting. -/
structure Overlaid (base : Settings) (source : Given) (settings : Settings) : Prop where
  apiKey : settings.apiKey = source.apiKey.getD base.apiKey
  model : settings.model = source.model.getD base.model
  apiBase : settings.apiBase = source.apiBase.getD base.apiBase
  timeout : NumberOf base.timeout source.timeout settings.timeout
  temperature : NumberOf base.temperature source.temperature settings.temperature

/-! ## One layer -/

theorem numberGiven_eq_ok_iff : numberGiven default value? = .ok made ↔ NumberOf default value? made := by
  constructor
  · intro h
    cases value? with
    | none =>
        cases h
        exact .default
    | some value =>
        cases hnumber : number value with
        | error fault => simp [numberGiven, hnumber] at h
        | ok x =>
            simp only [numberGiven, hnumber, Except.ok.injEq] at h
            exact h ▸ .given hnumber
  · intro h
    cases h with
    | default => rfl
    | given hnumber => simp only [numberGiven, hnumber]

theorem overlay_eq_ok_iff {source : Given} :
    overlay base source = .ok settings ↔ Overlaid base source settings := by
  unfold overlay
  simp only [bind_eq_ok_iff, numberGiven_eq_ok_iff, Except.ok.injEq]
  constructor
  · rintro ⟨timeout, htimeout, temperature, htemperature, rfl⟩
    exact ⟨rfl, rfl, rfl, htimeout, htemperature⟩
  · rintro ⟨hkey, hmodel, hbase, htimeout, htemperature⟩
    refine ⟨_, htimeout, _, htemperature, ?_⟩
    cases settings
    congr 1 <;> exact Eq.symm ‹_›

theorem withFields_eq_overlay : withFields base fields = overlay base (.ofFields fields) := rfl

theorem withEnvironment_eq_overlay :
    base.withEnvironment environment = overlay base (.ofEnvironment environment) := by
  have hplain : ofPlain = fun s => Json.Value.string (.plain s) := rfl
  unfold withEnvironment overlay Given.ofEnvironment
  rw [hplain]
  cases given? environment "EXEFORGE_TIMEOUT" with
  | none => simp [numberGiven, bind, Except.bind]
  | some text => cases hnumber : numberOfText text <;> simp [numberGiven, number, hnumber, bind, Except.bind]

/-! ## Two layers -/

theorem NumberOf.trans {top : Json.Value} {upper? : Option Json.Value} (h : NumberOf default value? made)
    (hupper : NumberOf made upper? top) : NumberOf default (upper?.or value?) top := by
  cases hupper with
  | default => exact h
  | given hnumber => exact .given hnumber

/-- Of two layers, the lower one shows where the upper one gives nothing. -/
theorem Overlaid.trans {lower upper : Given} {below : Settings} (h : Overlaid base lower below)
    (hupper : Overlaid below upper settings) : Overlaid base (upper.or lower) settings where
  apiKey := by rw [hupper.apiKey, h.apiKey, Given.or, Option.getD_or]
  model := by rw [hupper.model, h.model, Given.or, Option.getD_or]
  apiBase := by rw [hupper.apiBase, h.apiBase, Given.or, Option.getD_or]
  timeout := h.timeout.trans hupper.timeout
  temperature := h.temperature.trans hupper.temperature

/-! ## Loading -/

/-- There is at most one record in use. -/
theorem InUse.unique {used? : Option String} {others : Json.Fields} (h : InUse nesting disk home used? fields)
    (hother : InUse nesting disk home used? others) : fields = others := by
  cases h with
  | nothing =>
      cases hother
      rfl
  | file htext hread =>
      cases hother with
      | file htext' hread' =>
          rw [htext, Except.ok.injEq] at htext'
          subst htext'
          rw [hread] at hread'
          cases hread'
          rfl

theorem readFile_eq_ok_iff :
    readFile nesting disk home path = .ok fields ↔ InUse nesting disk home (some path) fields := by
  constructor
  · intro h
    unfold readFile at h
    dsimp only at h
    split at h
    · cases h
    · cases h
    · split at h
      · cases h
      · rename_i text htext
        split at h
        · rename_i hread
          cases h
          exact .file htext hread
        · cases h
        · split at h <;> cases h
  · intro h
    cases h with
    | file htext hread => simp only [readFile, Disk.isFile_of_readText htext, htext, hread]

/-- Loading lays the file in use over the defaults, and the environment over that. -/
theorem load_eq_ok_iff :
    load nesting disk home path? environment = .ok settings ↔
      ∃ fields, InUse nesting disk home (file? path? environment) fields ∧
        ∃ below, overlay {} (.ofFields fields) = .ok below ∧
          overlay below (.ofEnvironment environment) = .ok settings := by
  unfold load
  simp only [withEnvironment_eq_overlay, withFields_eq_overlay]
  cases file? path? environment with
  | none =>
      constructor
      · intro h
        exact ⟨[], .nothing, {}, rfl, h⟩
      · rintro ⟨fields, ⟨⟩, below, hbelow, h⟩
        cases hbelow
        exact h
  | some path => simp only [bind_eq_ok_iff, readFile_eq_ok_iff]

/-- The environment comes first, then the file that the caller names or else the environment, then the
defaults.  Loading gives the same settings whenever a record with the same five fields is in use and the
same five variables have these values: it looks at no other file, no other field and no other variable. -/
theorem load_precedence (h : load nesting disk home path? environment = .ok settings) :
    let used? := (path?.filter (· ≠ "")).or (given? environment "EXEFORGE_CONFIG")
    let ofVariable := fun name => (given? environment name).map ofPlain
    ∃ fields, InUse nesting disk home used? fields ∧
      settings.apiKey = ((ofVariable "GEMINI_API_KEY").or
        ((ofVariable "API_KEY").or (fields.lookup "api_key"))).getD .null ∧
      settings.model = ((ofVariable "EXEFORGE_MODEL").or (fields.lookup "model")).getD
        (.string "gemini-3-flash-preview") ∧
      settings.apiBase = ((((given? environment "EXEFORGE_API_BASE").map dropSlashes).map ofPlain).or
        (fields.lookup "api_base")).getD (.string "https://generativelanguage.googleapis.com/v1beta") ∧
      NumberOf (.float 60) ((ofVariable "EXEFORGE_TIMEOUT").or (fields.lookup "timeout"))
        settings.timeout ∧
      NumberOf (.float 0.2) (fields.lookup "temperature") settings.temperature ∧
      ∀ nesting' disk' home' path?' environment' fields',
        InUse nesting' disk' home' (file? path?' environment') fields' →
        (∀ name ∈ ["GEMINI_API_KEY", "API_KEY", "EXEFORGE_MODEL", "EXEFORGE_API_BASE", "EXEFORGE_TIMEOUT"],
          given? environment' name = given? environment name) →
        (∀ key ∈ ["api_key", "model", "api_base", "timeout", "temperature"],
          fields'.lookup key = fields.lookup key) →
        load nesting' disk' home' path?' environment' = .ok settings := by
  intro used? ofVariable
  obtain ⟨fields, huse, below, hbelow, habove⟩ := load_eq_ok_iff.1 h
  have hlayers := (overlay_eq_ok_iff.1 hbelow).trans (overlay_eq_ok_iff.1 habove)
  have hused : file? path? environment = used? := by
    cases path?.filter (· ≠ "") <;> simp [file?, used?, fileVariable]
  refine ⟨fields, hused ▸ huse, ?_, hlayers.model, hlayers.apiBase, hlayers.timeout,
    hlayers.temperature, ?_⟩
  · rw [hlayers.apiKey, ← Option.or_assoc, ← Option.map_or]
    rfl
  · intro nesting' disk' home' path?' environment' fields' huse' hvariables hkeys
    have hsame : Given.ofFields fields' = .ofFields fields := by
      simp only [Given.ofFields, List.forall_mem_cons] at hkeys ⊢
      obtain ⟨hkey, hmodel, hbase, htimeout, htemperature, -⟩ := hkeys
      rw [hkey, hmodel, hbase, htimeout, htemperature]
    have hgiven : Given.ofEnvironment environment' = .ofEnvironment environment := by
      simp only [Given.ofEnvironment, List.forall_mem_cons] at hvariables ⊢
      obtain ⟨hgemini, hkey, hmodel, hbase, htimeout, -⟩ := hvariables
      rw [hgemini, hkey, hmodel, hbase, htimeout]
    exact load_eq_ok_iff.2 ⟨fields', huse', below, hsame ▸ hbelow, hgiven ▸ habove⟩

/-- The file that the caller names is used although the environment names another one; of its fields, the
model is taken.  Two more variables, another file and an unknown field change nothing. -/
theorem load_precedence_of_named_file :
    let disk : Disk :=
      ⟨[(["home", "s.json"], .file (Text.Utf8.encode "\x7b\"model\":\"m\"\x7d")), (["home"], .folder)],
        ["home"]⟩
    let other : Disk :=
      ⟨[(["home", "s.json"], .file (Text.Utf8.encode "\x7b\"model\":\"m\",\"base\":\"b\"\x7d")),
        (["home", "t.json"], .file (Text.Utf8.encode "[]")), (["home"], .folder)], ["home"]⟩
    let environment : Environment :=
      [("EXEFORGE_CONFIG", "t.json"), ("GEMINI_API_KEY", ""), ("API_KEY", "k"),
        ("EXEFORGE_API_BASE", "https://ai.example//")]
    let settings : Settings :=
      { apiKey := .string "k", model := .string "m", apiBase := .string "https://ai.example" }
    load {} disk "/home" (some "s.json") environment = .ok settings ∧
      load {} other "/home" (some "s.json") (("HOME", "/root") :: ("API_BASE", "x") :: environment) =
        .ok settings := by
  intro disk other environment settings
  have htext : disk.readText (Path.ofString "s.json") = .ok "\x7b\"model\":\"m\"\x7d" :=
    Disk.readText_of_readBytes rfl (by decide)
  have hothertext : other.readText (Path.ofString "s.json") =
      .ok "\x7b\"model\":\"m\",\"base\":\"b\"\x7d" :=
    Disk.readText_of_readBytes rfl (by decide)
  have hread : Json.read {} "\x7b\"model\":\"m\"\x7d" = .ok (.object [("model", .string "m")]) := by
    have hwritten : String.ofList (Json.writeObject [("model", Json.quote "m")]) =
        "\x7b\"model\":\"m\"\x7d" := by decide
    exact hwritten ▸ Json.read_writeTexts {} [("model", "m")]
  have hotherread : Json.read {} "\x7b\"model\":\"m\",\"base\":\"b\"\x7d" =
      .ok (.object [("model", .string "m"), ("base", .string "b")]) := by
    have hwritten : String.ofList (Json.writeObject [("model", Json.quote "m"), ("base", Json.quote "b")]) =
        "\x7b\"model\":\"m\",\"base\":\"b\"\x7d" := by decide
    exact hwritten ▸ Json.read_writeTexts {} [("model", "m"), ("base", "b")]
  have huse : InUse {} disk "/home" (some "s.json") [("model", .string "m")] := .file htext hread
  have hother : InUse {} other "/home" (some "s.json") [("model", .string "m"), ("base", .string "b")] :=
    .file hothertext hotherread
  have hload : load {} disk "/home" (some "s.json") environment = .ok settings := by
    have hbelow : Overlaid {} (.ofFields [("model", .string "m")]) { model := .string "m" } :=
      ⟨rfl, rfl, rfl, .default, .default⟩
    have habove : Overlaid { model := .string "m" } (.ofEnvironment environment) settings :=
      ⟨rfl, rfl, rfl, .default, .default⟩
    exact load_eq_ok_iff.2 ⟨_, huse, _, overlay_eq_ok_iff.2 hbelow, overlay_eq_ok_iff.2 habove⟩
  obtain ⟨fields, hfields, -, -, -, -, -, hsame⟩ := load_precedence hload
  obtain rfl := hfields.unique huse
  refine ⟨hload, hsame {} other "/home" (some "s.json") _ _ hother ?_ ?_⟩
  · decide
  · simp only [List.forall_mem_cons]
    exact ⟨rfl, rfl, rfl, rfl, rfl, fun _ h => absurd h List.not_mem_nil⟩

end Settings

end SelfBuild
