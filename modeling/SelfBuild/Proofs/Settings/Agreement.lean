import Mathlib.Data.List.DropRight
import SelfBuild.Proofs.Drafting.Exchange
import SelfBuild.Proofs.Settings.Precedence

/-!
# One setting, given by a file or by the environment

Four settings can be given by a field of a file or by a variable.  Both ways come to the same, or fail in the
same way, with two exceptions: slashes at the end of an address are taken off a variable but not off a field,
and a second variable for the key goes before a file and behind the first one.
-/

namespace SelfBuild

namespace Settings

variable {nesting : Json.Nesting} {disk : Disk} {home : Path.Homes} {path? path?' : Option String}
variable {environment before after : Environment}
variable {subject : Subject}
variable {base settings settings' : Settings} {fields : Json.Fields} {v : String}

/-- The settings that a file and the environment both can give. -/
inductive Subject where
  | apiKey
  | model
  | apiBase
  | timeout
deriving DecidableEq, Repr

def Subject.key : Subject → String
  | .apiKey => "api_key"
  | .model => "model"
  | .apiBase => "api_base"
  | .timeout => "timeout"

def Subject.variableName : Subject → String
  | .apiKey => "GEMINI_API_KEY"
  | .model => "EXEFORGE_MODEL"
  | .apiBase => "EXEFORGE_API_BASE"
  | .timeout => "EXEFORGE_TIMEOUT"

/-- A file gives one setting and no other, and the environment gives that setting afterwards; its other
variables keep their values. -/
structure Moves (subject : Subject) (v : String) (fields : Json.Fields) (before after : Environment) :
    Prop where
  field : fields.lookup subject.key = some (.string v)
  alone : ∀ key ∈ ["api_key", "model", "api_base", "timeout", "temperature"],
    key ≠ subject.key → fields.lookup key = none
  absent : given? before subject.variableName = none
  given : given? after subject.variableName = some v
  same : ∀ name ∈ ["GEMINI_API_KEY", "API_KEY", "EXEFORGE_MODEL", "EXEFORGE_API_BASE", "EXEFORGE_TIMEOUT"],
    name ≠ subject.variableName → given? after name = given? before name

/-- When a value means the same in both places. -/
def Subject.Agrees (v : String) (before : Environment) : Subject → Prop
  | .apiKey => ∀ key, given? before "API_KEY" = some key → key = v
  | .apiBase => v.toList.getLast? ≠ some '/'
  | .model => True
  | .timeout => True

theorem Subject.key_mem (subject : Subject) :
    subject.key ∈ ["api_key", "model", "api_base", "timeout", "temperature"] := by
  cases subject <;> decide

theorem Subject.variableName_mem (subject : Subject) :
    subject.variableName ∈
      ["GEMINI_API_KEY", "API_KEY", "EXEFORGE_MODEL", "EXEFORGE_API_BASE", "EXEFORGE_TIMEOUT"] := by
  cases subject <;> decide

theorem Subject.key_ne {other : Subject} (h : other ≠ subject) : other.key ≠ subject.key := by
  revert h
  cases other <;> cases subject <;> decide

theorem Subject.variableName_ne {other : Subject} (h : other ≠ subject) :
    other.variableName ≠ subject.variableName := by
  revert h
  cases other <;> cases subject <;> decide

/-! ## Layers -/

/-- Two layers are one, as long as the lower one does not give a number that the upper one replaces. -/
theorem overlay_bind_overlay {lower upper : Given} (htimeout : lower.timeout = none ∨ upper.timeout = none)
    (hlower : lower.temperature = none) (hupper : upper.temperature = none) :
    (overlay base lower >>= fun below => overlay below upper) = overlay base (upper.or lower) := by
  have hnothing (default : Json.Value) : numberGiven default none = .ok default := rfl
  unfold overlay
  simp only [Given.or, hlower, hupper, Option.or_none, hnothing, Option.getD_or]
  -- A number that fails in the lower layer stops both, even where the upper layer would replace it.
  rcases htimeout with hnone | hnone
  · simp only [hnone, Option.or_none, hnothing]
    rfl
  · simp only [hnone, Option.none_or, hnothing]
    cases numberGiven base.timeout lower.timeout <;> rfl

theorem overlay_eq_error_congr {source other : Given} {fault : Fault}
    (htimeout : source.timeout = other.timeout) (htemperature : source.temperature = other.temperature) :
    overlay base source = .error fault ↔ overlay base other = .error fault := by
  unfold overlay
  rw [htimeout, htemperature]
  cases numberGiven base.timeout other.timeout with
  | error stop => rfl
  | ok timeout =>
      cases numberGiven base.temperature other.temperature with
      | error stop => rfl
      | ok temperature => simp [bind, Except.bind]

/-- Where two sources give the same model and the same numbers, only the key and the address can differ. -/
theorem overlay_eq_iff {source other : Given} (hmodel : source.model = other.model)
    (htimeout : source.timeout = other.timeout) (htemperature : source.temperature = other.temperature)
    (h : overlay base source = .ok settings) (hother : overlay base other = .ok settings') :
    settings.model = settings'.model ∧
      (settings = settings' ↔ settings.apiKey = settings'.apiKey ∧ settings.apiBase = settings'.apiBase) := by
  have hlaid := overlay_eq_ok_iff.1 h
  have hlaid' := overlay_eq_ok_iff.1 hother
  have hsame : settings.model = settings'.model := by rw [hlaid.model, hlaid'.model, hmodel]
  refine ⟨hsame, fun heq => ⟨congrArg apiKey heq, congrArg apiBase heq⟩, fun ⟨hkey, hbase⟩ => ?_⟩
  have hwait : settings.timeout = settings'.timeout :=
    Except.ok.inj ((numberGiven_eq_ok_iff.2 hlaid.timeout).symm.trans
      (htimeout ▸ numberGiven_eq_ok_iff.2 hlaid'.timeout))
  have htemper : settings.temperature = settings'.temperature :=
    Except.ok.inj ((numberGiven_eq_ok_iff.2 hlaid.temperature).symm.trans
      (htemperature ▸ numberGiven_eq_ok_iff.2 hlaid'.temperature))
  cases settings
  cases settings'
  simp_all

theorem load_eq_layers (huse : InUse nesting disk home (file? path? environment) fields) :
    load nesting disk home path? environment =
      (overlay {} (.ofFields fields) >>= fun below => overlay below (.ofEnvironment environment)) := by
  unfold load
  simp only [withEnvironment_eq_overlay, withFields_eq_overlay]
  cases hfile : file? path? environment with
  | none =>
      rw [hfile] at huse
      cases huse
      rfl
  | some path =>
      rw [hfile] at huse
      simp only [readFile_eq_ok_iff.2 huse]
      rfl

theorem dropSlashes_eq_self_iff : dropSlashes v = v ↔ v.toList.getLast? ≠ some '/' := by
  have htext : dropSlashes v = v ↔ v.toList.rdropWhile (· = '/') = v.toList := by
    rw [← String.toList_inj, dropSlashes, String.toList_ofList]
    rfl
  rw [htext, List.rdropWhile_eq_self_iff]
  constructor
  · intro h hlast
    obtain ⟨hne, hslash⟩ := List.mem_getLast?_eq_getLast hlast
    exact h hne (by simp [← hslash])
  · intro h hne hslash
    exact h (by rw [List.getLast?_eq_some_getLast hne, of_decide_eq_true hslash])

/-! ## From the file to the environment -/

theorem given?_ne_empty {name : String} (h : given? environment name = some v) : v ≠ "" := by
  have hkept := (Option.filter_eq_some_iff.1 h).2
  exact of_decide_eq_true hkept

/-- What the file gives is moved; of the other settings it gives nothing, and their variables stay. -/
theorem Moves.elsewhere (h : Moves subject v fields before after) {other : Subject} (hne : subject ≠ other) :
    fields.lookup other.key = none ∧
      given? after other.variableName = given? before other.variableName :=
  ⟨h.alone _ other.key_mem (Subject.key_ne hne.symm),
    h.same _ other.variableName_mem (Subject.variableName_ne hne.symm)⟩

theorem Moves.field_or (h : Moves subject v fields before after) (other : Subject) :
    ((given? before other.variableName).map ofPlain).or (fields.lookup other.key) =
      (given? after other.variableName).map ofPlain := by
  by_cases hsame : subject = other
  · rw [← hsame, h.absent, h.field, h.given]
    rfl
  · obtain ⟨hfield, hgiven⟩ := h.elsewhere hsame
    rw [hfield, hgiven, Option.or_none]

theorem Moves.given_secondKey (h : Moves subject v fields before after) :
    given? after "API_KEY" = given? before "API_KEY" :=
  h.same _ (by decide) (by cases subject <;> decide)

theorem Moves.temperature_eq_none (h : Moves subject v fields before after) :
    fields.lookup "temperature" = none :=
  h.alone _ (by decide) (by cases subject <;> decide)

theorem Moves.temperature_or (h : Moves subject v fields before after) :
    ((Given.ofEnvironment before).or (.ofFields fields)).temperature =
      (Given.ofEnvironment after).temperature := by
  simp only [Given.or, Given.ofFields, h.temperature_eq_none, Option.or_none]
  rfl

/-- A waiting time that is moved stands in one of the layers only. -/
theorem Moves.timeout_eq_none (h : Moves subject v fields before after) :
    (Given.ofFields fields).timeout = none ∨ (Given.ofEnvironment before).timeout = none := by
  by_cases hsame : subject = .timeout
  · subst hsame
    have habsent : given? before "EXEFORGE_TIMEOUT" = none := h.absent
    exact .inr (by rw [Given.ofEnvironment, habsent]; rfl)
  · exact .inl (h.elsewhere hsame).1

theorem Moves.load_eq_overlay (h : Moves subject v fields before after)
    (huse : InUse nesting disk home (file? path? before) fields) :
    load nesting disk home path? before =
      overlay {} ((Given.ofEnvironment before).or (.ofFields fields)) := by
  rw [load_eq_layers huse, overlay_bind_overlay h.timeout_eq_none h.temperature_eq_none rfl]

theorem load_of_no_file (hfile : file? path? environment = none) :
    load nesting disk home path? environment = overlay {} (.ofEnvironment environment) := by
  have huse : InUse nesting disk home (file? path? environment) [] := hfile ▸ InUse.nothing
  rw [load_eq_layers huse]
  rfl

/-- The keys that both places come to: before the field, the second variable counts. -/
theorem Moves.apiKey_cases (h : Moves subject v fields before after) :
    (subject = .apiKey ∧
        ((Given.ofEnvironment before).or (.ofFields fields)).apiKey =
          some (.string ((given? before "API_KEY").getD v)) ∧
        (Given.ofEnvironment after).apiKey = some (.string v)) ∨
      (subject ≠ .apiKey ∧
        ((Given.ofEnvironment before).or (.ofFields fields)).apiKey = (Given.ofEnvironment after).apiKey) := by
  by_cases hsame : subject = .apiKey
  · subst hsame
    have hfield : fields.lookup "api_key" = some (.string v) := h.field
    have habsent : given? before "GEMINI_API_KEY" = none := h.absent
    have hgiven : given? after "GEMINI_API_KEY" = some v := h.given
    refine .inl ⟨rfl, ?_, ?_⟩
    · simp only [Given.or, Given.ofEnvironment, Given.ofFields, hfield, habsent]
      cases given? before "API_KEY" <;> rfl
    · simp only [Given.ofEnvironment, hgiven]
      rfl
  · obtain ⟨hfield, hgiven⟩ := h.elsewhere hsame
    simp only [Subject.key, Subject.variableName] at hfield hgiven
    refine .inr ⟨hsame, ?_⟩
    simp only [Given.or, Given.ofEnvironment, Given.ofFields, hfield, hgiven, h.given_secondKey,
      Option.or_none]

/-- The addresses that both places come to: from the variable, slashes at the end are taken off. -/
theorem Moves.apiBase_cases (h : Moves subject v fields before after) :
    (subject = .apiBase ∧
        ((Given.ofEnvironment before).or (.ofFields fields)).apiBase = some (.string v) ∧
        (Given.ofEnvironment after).apiBase = some (.string (dropSlashes v))) ∨
      (subject ≠ .apiBase ∧
        ((Given.ofEnvironment before).or (.ofFields fields)).apiBase =
          (Given.ofEnvironment after).apiBase) := by
  by_cases hsame : subject = .apiBase
  · subst hsame
    have hfield : fields.lookup "api_base" = some (.string v) := h.field
    have habsent : given? before "EXEFORGE_API_BASE" = none := h.absent
    have hgiven : given? after "EXEFORGE_API_BASE" = some v := h.given
    refine .inl ⟨rfl, ?_, ?_⟩
    · simp only [Given.or, Given.ofEnvironment, Given.ofFields, hfield, habsent]
      rfl
    · simp only [Given.ofEnvironment, hgiven]
      rfl
  · obtain ⟨hfield, hgiven⟩ := h.elsewhere hsame
    simp only [Subject.key, Subject.variableName] at hfield hgiven
    refine .inr ⟨hsame, ?_⟩
    simp only [Given.or, Given.ofEnvironment, Given.ofFields, hfield, hgiven, Option.or_none]

/-- A file with one text among its fields. -/
theorem InUse.of_field {path text key : String}
    (htext : disk.readText (Path.ofString (Path.expandHome home path)) = .ok text)
    (hwritten : String.ofList (Json.writeObject [(key, Json.quote v)]) = text) :
    InUse nesting disk home (some path) [(key, .string v)] :=
  .file htext (hwritten ▸ Json.read_writeTexts _ [(key, v)])

/-! ## Both places compared -/

section Compared

variable (h : Moves subject v fields before after)
variable (hfile : overlay {} ((Given.ofEnvironment before).or (.ofFields fields)) = .ok settings)
variable (hvariable : overlay {} (.ofEnvironment after) = .ok settings')
include h hfile hvariable

theorem Moves.settings_eq_iff : settings = settings' ↔ subject.Agrees v before := by
  obtain ⟨-, heq⟩ := overlay_eq_iff (h.field_or .model) (h.field_or .timeout) h.temperature_or
    hfile hvariable
  have hlaid := overlay_eq_ok_iff.1 hfile
  have hlaid' := overlay_eq_ok_iff.1 hvariable
  rw [heq, hlaid.apiKey, hlaid'.apiKey, hlaid.apiBase, hlaid'.apiBase]
  rcases h.apiKey_cases with ⟨rfl, hkey, hkey'⟩ | ⟨hne, hkey⟩
  · have hbase := (h.apiBase_cases.resolve_left fun hcase => nomatch hcase.1).2
    rw [hkey, hkey', hbase]
    cases hsecond : given? before "API_KEY" <;> simp [Subject.Agrees, hsecond]
  · rcases h.apiBase_cases with ⟨rfl, hbase, hbase'⟩ | ⟨hne', hbase⟩
    · rw [hkey, hbase, hbase', Subject.Agrees, ← dropSlashes_eq_self_iff]
      simp [eq_comm]
    · rw [hkey, hbase]
      cases subject <;> simp_all [Subject.Agrees]

/-- A key is there in both cases, or in neither. -/
theorem Moves.isPresent_eq : settings.apiKey.isPresent = settings'.apiKey.isPresent := by
  rw [(overlay_eq_ok_iff.1 hfile).apiKey, (overlay_eq_ok_iff.1 hvariable).apiKey]
  rcases h.apiKey_cases with ⟨rfl, hkey, hkey'⟩ | ⟨-, hkey⟩
  · have hv : v ≠ "" := given?_ne_empty h.given
    rw [hkey, hkey']
    cases hsecond : given? before "API_KEY" with
    | none => rfl
    | some other =>
        have hother : other ≠ "" := given?_ne_empty hsecond
        simp [Json.Value.isPresent, bne, hother, hv]
  · rw [hkey]

theorem Moves.url_eq_iff :
    Drafting.url settings = Drafting.url settings' ↔
      (subject = .apiBase → v.toList.getLast? ≠ some '/') := by
  obtain ⟨hmodel, -⟩ := overlay_eq_iff (h.field_or .model) (h.field_or .timeout) h.temperature_or
    hfile hvariable
  have htext : Drafting.url settings = Drafting.url settings' ↔
      settings.apiBase.text = settings'.apiBase.text := by
    simp only [Drafting.url, hmodel, WideText.append_left_inj]
  rw [htext, (overlay_eq_ok_iff.1 hfile).apiBase, (overlay_eq_ok_iff.1 hvariable).apiBase]
  rcases h.apiBase_cases with ⟨rfl, hbase, hbase'⟩ | ⟨hne, hbase⟩
  · rw [hbase, hbase', ← dropSlashes_eq_self_iff]
    simp [Json.Value.text, eq_comm]
  · simp [hbase, hne]

end Compared

/-- A setting fails to load from the file exactly if it fails to load from the environment, and for the same
reason.  What is loaded is the same except for an address with slashes at its end, which the environment
takes off and the file does not, and a key beside a second variable with another one.  Posts go to the same
address except for these slashes. -/
theorem load_agrees_iff (nesting' : Json.Nesting) (disk' : Disk) (home' : Path.Homes)
    (huse : InUse nesting disk home (file? path? before) fields)
    (hnone : file? path?' after = none) (h : Moves subject v fields before after) :
    let byFile := load nesting disk home path? before
    let byVariable := load nesting' disk' home' path?' after
    (∀ fault, byFile = .error fault ↔ byVariable = .error fault) ∧
      ∀ settings settings', byFile = .ok settings → byVariable = .ok settings' →
        (settings = settings' ↔ subject.Agrees v before) ∧
          ∀ limits prompt prompting reply,
            let posted := fun (settings : Settings) =>
              (Drafting.generate limits settings prompt prompting reply).posts.map Drafting.Post.url
            posted settings = posted settings' ↔
              (settings.apiKey.isPresent = true → subject = .apiBase → v.toList.getLast? ≠ some '/') := by
  intro byFile byVariable
  have hbyFile : byFile = overlay {} ((Given.ofEnvironment before).or (.ofFields fields)) :=
    h.load_eq_overlay huse
  have hbyVariable : byVariable = overlay {} (.ofEnvironment after) := load_of_no_file hnone
  rw [hbyFile, hbyVariable]
  refine ⟨fun fault => overlay_eq_error_congr (h.field_or .timeout) h.temperature_or, ?_⟩
  intro settings settings' hfile hvariable
  refine ⟨h.settings_eq_iff hfile hvariable, fun limits prompt prompting reply => ?_⟩
  intro posted
  simp only [posted, Drafting.generate_posts_url, ← h.isPresent_eq hfile hvariable]
  cases settings.apiKey.isPresent with
  | false => simp
  | true => simp only [if_true, List.cons.injEq, and_true, true_imp_iff, h.url_eq_iff hfile hvariable]

/-- An address without a slash at its end means the same in both places. -/
theorem load_agrees_of_address :
    let disk : Disk :=
      ⟨[(["home", "s.json"], .file (Text.Utf8.encode "\x7b\"api_base\":\"https://ai.example\"\x7d")),
        (["home"], .folder)], ["home"]⟩
    let before : Environment := [("GEMINI_API_KEY", "k"), ("EXEFORGE_CONFIG", "s.json")]
    let after : Environment := [("GEMINI_API_KEY", "k"), ("EXEFORGE_API_BASE", "https://ai.example")]
    let settings : Settings := { apiKey := .string "k", apiBase := .string "https://ai.example" }
    load {} disk "/home" none before = .ok settings ∧ load {} disk "/home" none after = .ok settings := by
  intro disk before after settings
  have huse : InUse {} disk "/home" (file? none before) [("api_base", .string "https://ai.example")] :=
    .of_field (Disk.readText_of_readBytes rfl (by decide)) (by decide)
  have hmoves : Moves .apiBase "https://ai.example" [("api_base", .string "https://ai.example")] before after :=
    ⟨rfl, by simp [Subject.key, List.lookup_cons], by decide, by decide, by decide⟩
  have hvariable : load {} disk "/home" none after = .ok settings := by
    have habove : Overlaid {} (.ofEnvironment after) settings := ⟨rfl, rfl, rfl, .default, .default⟩
    exact (load_of_no_file rfl).trans (overlay_eq_ok_iff.2 habove)
  have hnone : file? none after = none := rfl
  obtain ⟨hfaults, hsame⟩ := load_agrees_iff {} disk "/home" huse hnone hmoves
  refine ⟨?_, hvariable⟩
  cases hload : load {} disk "/home" none before with
  | error fault => cases ((hfaults fault).1 hload).symm.trans hvariable
  | ok loaded =>
      have heq : loaded = settings := (hsame loaded settings hload hvariable).1.2 (by simp [Subject.Agrees])
      rw [heq]

/-- A slash at the end of the address stays there if the file gives it, and posts go to another address than
those with the same address from the environment. -/
theorem slash_kept_from_file :
    let disk : Disk :=
      ⟨[(["home", "s.json"], .file (Text.Utf8.encode "\x7b\"api_base\":\"https://ai.example/\"\x7d")),
        (["home"], .folder)], ["home"]⟩
    let posted := fun (settings : Settings) =>
      (Drafting.generate {} settings "" {} (.failed "")).posts.map Drafting.Post.url
    ∃ settings settings', settings ≠ settings' ∧
      load {} disk "/home" (some "s.json") [("GEMINI_API_KEY", "k")] = .ok settings ∧
      load {} disk "/home" none [("GEMINI_API_KEY", "k"), ("EXEFORGE_API_BASE", "https://ai.example/")] =
        .ok settings' ∧
      posted settings = ["https://ai.example//models/gemini-3-flash-preview:generateContent"] ∧
      posted settings' = ["https://ai.example/models/gemini-3-flash-preview:generateContent"] := by
  intro disk posted
  have huse : InUse {} disk "/home" (some "s.json") [("api_base", .string "https://ai.example/")] :=
    .of_field (Disk.readText_of_readBytes rfl (by decide)) (by decide)
  have hbelow : Overlaid {} (.ofFields [("api_base", .string "https://ai.example/")])
      { apiBase := .string "https://ai.example/" } := ⟨rfl, rfl, rfl, .default, .default⟩
  have habove : Overlaid { apiBase := .string "https://ai.example/" }
      (.ofEnvironment [("GEMINI_API_KEY", "k")])
      { apiKey := .string "k", apiBase := .string "https://ai.example/" } :=
    ⟨rfl, rfl, rfl, .default, .default⟩
  have hvariable : Overlaid {}
      (.ofEnvironment [("GEMINI_API_KEY", "k"), ("EXEFORGE_API_BASE", "https://ai.example/")])
      { apiKey := .string "k", apiBase := .string "https://ai.example" } :=
    ⟨rfl, rfl, rfl, .default, .default⟩
  refine ⟨_, _, ?_, load_eq_ok_iff.2 ⟨_, huse, _, overlay_eq_ok_iff.2 hbelow, overlay_eq_ok_iff.2 habove⟩,
    (load_of_no_file rfl).trans (overlay_eq_ok_iff.2 hvariable), by decide, by decide⟩
  simp

end Settings

end SelfBuild
