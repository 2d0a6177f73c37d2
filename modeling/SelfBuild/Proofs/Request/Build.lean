import SelfBuild.Proofs.Options
import SelfBuild.Proofs.Request.Shape
import SelfBuild.Proofs.Text.Wide

/-!
# Requests and the orders they describe

A request is accepted exactly when it is a record of a project, its options and possibly a source, with
every value of the right kind and no further keys.  Nothing that is accepted is coerced, replaced by a
default or refused later on, and every order can be given by the request that spells it out.
-/

namespace SelfBuild

/-- Of a plain source the artifact is the one that is composed of it. -/
theorem Order.artifact_plain {order : Order} {source : String} (h : order.source = source) :
    order.artifact = Artifact.compose order.project order.options source := by
  rw [Order.artifact, h, WideText.plain_append, Order.preamble, Artifact.compose, Artifact.chars,
    String.ofList_append, String.ofList_toList]

/-- An artifact can be encoded exactly if its source can. -/
theorem Order.isPlain_artifact_iff {order : Order} : order.artifact.IsPlain ↔ order.source.IsPlain :=
  WideText.isPlain_plain_append_iff _ _

namespace Request

variable {nesting : Json.Nesting} {path : List String} {value : Json.Value} {fields : Json.Fields}

/-- The record of a project: a name, and possibly four more texts. -/
structure ProjectRecord (fields : Json.Fields) : Prop where
  known : ∀ key ∈ fields.map Prod.fst,
    key ∈ ["projectName", "version", "author", "copyright", "description"].map WideText.plain
  named : ∃ name, fields.lookup "projectName" = some (.string name)
  texts : ∀ key value, fields.lookup key = some value → ∃ s, value = .string s

/-- The record of the options: each choice by one of its words or by a truth value. -/
structure OptionsRecord (fields : Json.Fields) : Prop where
  known : ∀ key ∈ fields.map Prod.fst,
    key ∈ ["architecture", "outputType", "enableOptimization", "allowUnsafe"].map WideText.plain
  architecture : ∃ word ∈ ["ANYCPU", "X64", "X86"],
    fields.lookup "architecture" = some (.string word)
  output : ∃ word ∈ ["CONSOLE", "WINDOWED"], fields.lookup "outputType" = some (.string word)
  optimize : ∃ b, fields.lookup "enableOptimization" = some (.bool b)
  allowUnsafe : ∃ b, fields.lookup "allowUnsafe" = some (.bool b)

/-- The record of a request, with the records in it. -/
structure RequestRecord (fields project options : Json.Fields) : Prop where
  known : ∀ key ∈ fields.map Prod.fst, key ∈ ["metadata", "config", "sourceCode"].map WideText.plain
  project_eq : fields.lookup "metadata" = some (.object project)
  options_eq : fields.lookup "config" = some (.object options)
  project_record : ProjectRecord project
  options_record : OptionsRecord options
  source_text : ∀ value, fields.lookup "sourceCode" = some value → ∃ s, value = .string s

/-! ## What the shapes admit -/

theorem projectShape_eq_nil_iff :
    projectShape path value = [] ↔ ∃ fields, value = .object fields ∧ ProjectRecord fields := by
  constructor
  · intro h
    obtain ⟨fields, rfl⟩ := exists_object_of_recordShape h
    obtain ⟨hrequired, hknown, hshapes⟩ := recordShape_eq_nil_iff.1 h
    have htexts : ∀ key value, fields.lookup key = some value → ∃ s, value = .string s := by
      intro key value hvalue
      have hkey := hknown key (Json.Fields.mem_keys_iff.2 ⟨value, hvalue⟩)
      obtain ⟨word, hword, rfl⟩ := List.mem_map.1 hkey
      obtain ⟨⟨key, shape⟩, hentry, rfl⟩ := List.mem_map.1 hword
      have hshape : shape = textShape := by
        simp only [List.mem_cons, Prod.mk.injEq, List.not_mem_nil, or_false] at hentry
        rcases hentry with h | h | h | h | h <;> exact h.2
      have hnil := hshapes _ hentry value hvalue
      rw [hshape] at hnil
      exact textShape_eq_nil_iff.1 hnil
    obtain ⟨name, hname⟩ := hrequired "projectName" (by simp)
    obtain ⟨s, rfl⟩ := htexts _ _ hname
    exact ⟨fields, rfl, hknown, ⟨s, hname⟩, htexts⟩
  · rintro ⟨fields, rfl, hrecord⟩
    obtain ⟨name, hname⟩ := hrecord.named
    refine recordShape_eq_nil_iff.2 ⟨by simp [hname], hrecord.known, ?_⟩
    intro entry hentry value hvalue
    have htext (path : List String) : textShape path value = [] :=
      textShape_eq_nil_iff.2 (hrecord.texts _ _ hvalue)
    simp only [List.mem_cons, List.not_mem_nil, or_false] at hentry
    rcases hentry with rfl | rfl | rfl | rfl | rfl <;> exact htext _

theorem optionsShape_eq_nil_iff :
    optionsShape path value = [] ↔ ∃ fields, value = .object fields ∧ OptionsRecord fields := by
  constructor
  · intro h
    obtain ⟨fields, rfl⟩ := exists_object_of_recordShape h
    obtain ⟨hrequired, hknown, hshapes⟩ := recordShape_eq_nil_iff.1 h
    simp only [List.mem_cons, List.not_mem_nil, or_false, forall_eq_or_imp, forall_eq]
      at hrequired hshapes
    obtain ⟨⟨a, ha⟩, ⟨o, ho⟩, ⟨n, hn⟩, ⟨u, hu⟩⟩ := hrequired
    obtain ⟨sa, so, sn, su⟩ := hshapes
    obtain ⟨wa, hwa, rfl⟩ := wordShape_eq_nil_iff.1 (sa _ ha)
    obtain ⟨wo, hwo, rfl⟩ := wordShape_eq_nil_iff.1 (so _ ho)
    obtain ⟨bn, rfl⟩ := flagShape_eq_nil_iff.1 (sn _ hn)
    obtain ⟨bu, rfl⟩ := flagShape_eq_nil_iff.1 (su _ hu)
    exact ⟨fields, rfl, hknown, ⟨wa, hwa, ha⟩, ⟨wo, hwo, ho⟩, ⟨bn, hn⟩, ⟨bu, hu⟩⟩
  · rintro ⟨fields, rfl, hrecord⟩
    obtain ⟨wa, hwa, ha⟩ := hrecord.architecture
    obtain ⟨wo, hwo, ho⟩ := hrecord.output
    obtain ⟨bn, hn⟩ := hrecord.optimize
    obtain ⟨bu, hu⟩ := hrecord.allowUnsafe
    refine recordShape_eq_nil_iff.2 ⟨by simp [ha, ho, hn, hu], hrecord.known, ?_⟩
    simp only [List.mem_cons, List.not_mem_nil, or_false, forall_eq_or_imp, forall_eq, ha, ho, hn,
      hu, Option.some.injEq, forall_eq']
    exact ⟨wordShape_eq_nil_iff.2 ⟨wa, hwa, rfl⟩, wordShape_eq_nil_iff.2 ⟨wo, hwo, rfl⟩, rfl, rfl⟩

theorem violations_eq_nil_iff :
    violations value = [] ↔
      ∃ fields project options, value = .object fields ∧ RequestRecord fields project options := by
  constructor
  · intro h
    obtain ⟨fields, rfl⟩ := exists_object_of_recordShape h
    obtain ⟨hrequired, hknown, hshapes⟩ := recordShape_eq_nil_iff.1 h
    simp only [List.mem_cons, List.not_mem_nil, or_false, forall_eq_or_imp, forall_eq]
      at hrequired hshapes
    obtain ⟨⟨p, hp⟩, ⟨o, ho⟩⟩ := hrequired
    obtain ⟨sp, so, st⟩ := hshapes
    obtain ⟨project, rfl, hproject⟩ := projectShape_eq_nil_iff.1 (sp _ hp)
    obtain ⟨options, rfl, hoptions⟩ := optionsShape_eq_nil_iff.1 (so _ ho)
    exact ⟨fields, project, options, rfl, hknown, hp, ho, hproject, hoptions,
      fun value hvalue => textShape_eq_nil_iff.1 (st value hvalue)⟩
  · rintro ⟨fields, project, options, rfl, hrecord⟩
    have hp := hrecord.project_eq
    have ho := hrecord.options_eq
    refine recordShape_eq_nil_iff.2 ⟨by simp [hp, ho], hrecord.known, ?_⟩
    simp only [List.mem_cons, List.not_mem_nil, or_false, forall_eq_or_imp, forall_eq, hp, ho,
      Option.some.injEq, forall_eq']
    exact ⟨projectShape_eq_nil_iff.2 ⟨project, rfl, hrecord.project_record⟩,
      optionsShape_eq_nil_iff.2 ⟨options, rfl, hrecord.options_record⟩,
      fun value hvalue => textShape_eq_nil_iff.2 (hrecord.source_text value hvalue)⟩

/-- A value is rejected for a violation of the shape of requests, and for nothing else. -/
theorem validate_cases (value : Json.Value) :
    violations value = [] ∧ validate value = .ok () ∨
      violations value ≠ [] ∧ ∃ v, validate value = .error (.violation v) := by
  unfold validate
  cases violations value with
  | nil => simp [chosen?]
  | cons first rest => simp [chosen?]

/-- An accepted value has no violations, so nothing of it need be shown. -/
theorem unshowable?_of_validate_eq_ok (h : validate value = .ok ()) : unshowable? nesting value = none := by
  rcases validate_cases value with ⟨hnil, -⟩ | ⟨-, v, herror⟩
  · rw [unshowable?, hnil]
    rfl
  · rw [herror] at h
    cases h

theorem validate_eq_ok_of_toOrder {source? : Option WideText} {order : Order}
    (h : toOrder nesting value source? = .ok order) : validate value = .ok () := by
  unfold toOrder at h
  split at h
  · cases h
  · rename_i hvalidate
    exact hvalidate

theorem validate_eq_ok_iff (value : Json.Value) :
    validate value = .ok () ↔
      ∃ fields project options, value = .object fields ∧ RequestRecord fields project options := by
  rw [← violations_eq_nil_iff]
  rcases validate_cases value with ⟨hnil, hok⟩ | ⟨hcons, v, herror⟩
  · simp [hnil, hok]
  · simp [hcons, herror]

/-! ## What a request describes -/

/-- The text under a key, or a default where the key is missing. -/
def textAt (fields : Json.Fields) (key default : String) : WideText :=
  match fields.lookup key with
  | some (.string s) => s
  | _ => default

theorem pick?_of_lookup_eq_none {first second : String} (h : fields.lookup (.plain first) = none) :
    fields.pick? [first, second] = fields.lookup (.plain second) := by
  cases hsecond : fields.lookup (.plain second) <;> simp [Json.Fields.pick?, h, hsecond]

/-- Options are read back from what stands under the keys of their own record. -/
theorem ofRecord_eq_ok {options : Options}
    (hnames : ∀ choice : Options.Choice, fields.lookup (.plain choice.name) = none)
    (h : ∀ entry ∈ options.toRecord, fields.lookup entry.1 = some entry.2) :
    Options.ofRecord nesting fields = .ok options := by
  simp only [Options.toRecord, List.mem_cons, List.not_mem_nil, or_false, forall_eq_or_imp,
    forall_eq] at h
  obtain ⟨ha, ho, hn, hu⟩ := h
  have hraw : Options.Raw.ofRecord fields = options.toRaw := by
    simp [Options.Raw.ofRecord, Options.toRaw, pick?_of_lookup_eq_none (hnames _), ha, ho, hn, hu]
  rw [Options.ofRecord, hraw, Options.coerce_toRaw]

theorem OptionsRecord.exists_options (nesting : Json.Nesting) (h : OptionsRecord fields) :
    ∃ options, Options.ofRecord nesting fields = .ok options ∧
      ∀ key, options.toRecord.lookup key = fields.lookup key := by
  obtain ⟨wa, hwa, ha⟩ := h.architecture
  obtain ⟨wo, hwo, ho⟩ := h.output
  obtain ⟨bn, hn⟩ := h.optimize
  obtain ⟨bu, hu⟩ := h.allowUnsafe
  obtain ⟨architecture, rfl⟩ : ∃ a : Architecture, a.word = wa := by
    simp only [List.mem_cons, List.not_mem_nil, or_false] at hwa
    rcases hwa with rfl | rfl | rfl
    · exact ⟨.anyCpu, rfl⟩
    · exact ⟨.x64, rfl⟩
    · exact ⟨.x86, rfl⟩
  obtain ⟨output, rfl⟩ : ∃ o : OutputKind, o.word = wo := by
    simp only [List.mem_cons, List.not_mem_nil, or_false] at hwo
    rcases hwo with rfl | rfl
    · exact ⟨.console, rfl⟩
    · exact ⟨.windowed, rfl⟩
  let options : Options := ⟨architecture, output, bn, bu⟩
  have hentries : ∀ entry ∈ options.toRecord, fields.lookup entry.1 = some entry.2 := by
    simp only [options, Options.toRecord, List.mem_cons, List.not_mem_nil, or_false,
      forall_eq_or_imp, forall_eq]
    exact ⟨ha, ho, hn, hu⟩
  have hnames (choice : Options.Choice) : fields.lookup (.plain choice.name) = none :=
    lookup_eq_none_of_unknown h.known (by cases choice <;> decide)
  refine ⟨options, ofRecord_eq_ok hnames hentries, fun key => ?_⟩
  cases hkey : options.toRecord.lookup key with
  | some value =>
      obtain ⟨before, after, hsplit, -⟩ := List.lookup_eq_some_iff.1 hkey
      exact (hentries (key, value) (by simp [hsplit])).symm
  | none =>
      refine (lookup_eq_none_of_unknown h.known fun hknown => ?_).symm
      rw [List.lookup_eq_none_iff] at hkey
      simp only [options, Options.toRecord, List.map_cons, List.map_nil, List.mem_cons,
        List.not_mem_nil, or_false, forall_eq_or_imp, forall_eq, bne_iff_ne] at hkey hknown
      obtain ⟨ka, ko, kn, ku⟩ := hkey
      rcases hknown with hk | hk | hk | hk
      · exact ka hk
      · exact ko hk
      · exact kn hk
      · exact ku hk

theorem ProjectRecord.ofRecord_eq (h : ProjectRecord fields) :
    Metadata.ofRecord fields =
      { name := textAt fields "projectName" "MyApp"
        version := textAt fields "version" "1.0.0"
        author := textAt fields "author" ""
        copyright := textAt fields "copyright" ""
        description := textAt fields "description" "" } := by
  have hname : fields.lookup "project_name" = none :=
    lookup_eq_none_of_unknown h.known (by decide)
  have htext (key default : String) :
      ((fields.lookup (.plain key)).map Json.Value.text).getD (.plain default) =
        textAt fields key default := by
    cases hkey : fields.lookup (.plain key) with
    | none => simp [textAt, hkey]
    | some value =>
        obtain ⟨s, rfl⟩ := h.texts _ value hkey
        simp [textAt, hkey, Json.Value.text]
  have hpick (key : String) : fields.pick? [key] = fields.lookup (.plain key) := by
    cases hkey : fields.lookup (.plain key) <;> simp [Json.Fields.pick?, hkey]
  simp only [Metadata.ofRecord, pick?_of_lookup_eq_none hname, hpick, htext]

/-- What is accepted describes an order, with nothing coerced and only missing texts filled in. -/
theorem RequestRecord.exists_order {project options : Json.Fields} (nesting : Json.Nesting)
    (h : RequestRecord fields project options) :
    ∃ order, toOrder nesting (.object fields) none = .ok order ∧
      (∀ key, order.options.toRecord.lookup key = options.lookup key) ∧
      order.metadata =
        { name := textAt project "projectName" "MyApp"
          version := textAt project "version" "1.0.0"
          author := textAt project "author" ""
          copyright := textAt project "copyright" ""
          description := textAt project "description" "" } ∧
      order.source = textAt fields "sourceCode" Project.sampleProgram := by
  have haccepted : validate (.object fields) = .ok () :=
    (validate_eq_ok_iff _).2 ⟨fields, project, options, rfl, h⟩
  have hproject : section? (.object fields) "metadata" = project := by
    simp [section?, Json.Value.get?, h.project_eq]
  have hoptions : section? (.object fields) "config" = options := by
    simp [section?, Json.Value.get?, h.options_eq]
  obtain ⟨chosen, hchosen, hentries⟩ := h.options_record.exists_options nesting
  unfold toOrder
  rw [haccepted, hproject, hoptions]
  simp only [hchosen]
  refine ⟨_, rfl, hentries, h.project_record.ofRecord_eq, ?_⟩
  cases hsource : fields.lookup "sourceCode" with
  | none => simp [textAt, Json.Value.get?, hsource]
  | some value =>
      obtain ⟨s, rfl⟩ := h.source_text value hsource
      simp [textAt, Json.Value.get?, hsource]

/-! ## The request for an order -/

/-- The record that spells out a project. -/
def projectFields (metadata : Metadata) : Json.Fields :=
  [ ("projectName", .string metadata.name)
  , ("version", .string metadata.version)
  , ("author", .string metadata.author)
  , ("copyright", .string metadata.copyright)
  , ("description", .string metadata.description) ]

def orderFields (order : Order) : Json.Fields :=
  [ ("metadata", .object (projectFields order.metadata))
  , ("config", .object order.options.toRecord)
  , ("sourceCode", .string order.source) ]

theorem projectRecord_projectFields (metadata : Metadata) :
    ProjectRecord (projectFields metadata) := by
  refine ⟨by simp [projectFields], ⟨_, rfl⟩, fun key value h => ?_⟩
  obtain ⟨before, after, hsplit, -⟩ := List.lookup_eq_some_iff.1 h
  have hmem : (key, value) ∈ projectFields metadata := by simp [hsplit]
  simp only [projectFields, List.mem_cons, Prod.mk.injEq, List.not_mem_nil, or_false] at hmem
  rcases hmem with h | h | h | h | h <;> exact ⟨_, h.2⟩

theorem optionsRecord_toRecord (options : Options) : OptionsRecord options.toRecord := by
  obtain ⟨architecture, output, optimize, allowUnsafe⟩ := options
  refine ⟨?_, ⟨architecture.word, ?_, rfl⟩, ⟨output.word, ?_, rfl⟩, ⟨_, rfl⟩, ⟨_, rfl⟩⟩
  · simp [Options.toRecord, Options.Choice.key]
  · cases architecture <;> simp [Architecture.word]
  · cases output <;> simp [OutputKind.word]

theorem architecture_eq_of_word {a b : Architecture} (h : a.word = b.word) : a = b := by
  have hsome := Options.member?_word_architecture a
  rw [h, Options.member?_word_architecture] at hsome
  exact (Option.some.inj hsome).symm

theorem output_eq_of_word {a b : OutputKind} (h : a.word = b.word) : a = b := by
  have hsome := Options.member?_word_output a
  rw [h, Options.member?_word_output] at hsome
  exact (Option.some.inj hsome).symm

/-- A record of options determines them. -/
theorem options_eq_of_lookup {a b : Options}
    (h : ∀ key, a.toRecord.lookup key = b.toRecord.lookup key) : a = b := by
  obtain ⟨architecture, output, optimize, allowUnsafe⟩ := a
  obtain ⟨architecture', output', optimize', allowUnsafe'⟩ := b
  simp only [Options.toRecord, Options.Choice.key, List.lookup_cons] at h
  obtain rfl : architecture = architecture' :=
    architecture_eq_of_word (by simpa using h "architecture")
  obtain rfl : output = output' := output_eq_of_word (by simpa using h "outputType")
  obtain rfl : optimize = optimize' := by simpa using h "enableOptimization"
  obtain rfl : allowUnsafe = allowUnsafe' := by simpa using h "allowUnsafe"
  rfl

/-- A record spells an order out, with the fields of all its records in any order. -/
structure Describes (order : Order) (fields project options : Json.Fields) : Prop where
  project_eq : fields.lookup "metadata" = some (.object project)
  options_eq : fields.lookup "config" = some (.object options)
  source_eq : fields.lookup "sourceCode" = some (.string order.source)
  known : ∀ key ∈ fields.map Prod.fst, key ∈ ["metadata", "config", "sourceCode"].map WideText.plain
  project_same : ∀ key, project.lookup key = (projectFields order.metadata).lookup key
  options_same : ∀ key, options.lookup key = order.options.toRecord.lookup key

theorem describes_orderFields (order : Order) :
    Describes order (orderFields order) (projectFields order.metadata) order.options.toRecord :=
  ⟨rfl, rfl, rfl, by simp [orderFields], fun _ => rfl, fun _ => rfl⟩

theorem mem_keys_of_same {other : Json.Fields} (h : ∀ key, fields.lookup key = other.lookup key)
    {key : WideText} (hkey : key ∈ fields.map Prod.fst) : key ∈ other.map Prod.fst := by
  rw [Json.Fields.mem_keys_iff] at hkey ⊢
  simpa only [h key] using hkey

theorem ProjectRecord.of_same {other : Json.Fields} (h : ProjectRecord other)
    (hsame : ∀ key, fields.lookup key = other.lookup key) : ProjectRecord fields where
  known := fun key hkey => h.known key (mem_keys_of_same hsame hkey)
  named := by simpa only [hsame] using h.named
  texts := by simpa only [hsame] using h.texts

theorem OptionsRecord.of_same {other : Json.Fields} (h : OptionsRecord other)
    (hsame : ∀ key, fields.lookup key = other.lookup key) : OptionsRecord fields where
  known := fun key hkey => h.known key (mem_keys_of_same hsame hkey)
  architecture := by simpa only [hsame] using h.architecture
  output := by simpa only [hsame] using h.output
  optimize := by simpa only [hsame] using h.optimize
  allowUnsafe := by simpa only [hsame] using h.allowUnsafe

theorem Describes.requestRecord {order : Order} {project options : Json.Fields}
    (h : Describes order fields project options) : RequestRecord fields project options where
  known := h.known
  project_eq := h.project_eq
  options_eq := h.options_eq
  project_record := (projectRecord_projectFields order.metadata).of_same h.project_same
  options_record := (optionsRecord_toRecord order.options).of_same h.options_same
  source_text := by
    intro value hvalue
    rw [h.source_eq] at hvalue
    exact ⟨order.source, (Option.some.inj hvalue).symm⟩

/-- A request that spells an order out describes that very order. -/
theorem Describes.toOrder_eq {order : Order} {project options : Json.Fields}
    (h : Describes order fields project options) : toOrder nesting (.object fields) none = .ok order := by
  obtain ⟨found, hfound, hoptions, hproject, hsource⟩ := h.requestRecord.exists_order nesting
  have hsame : found = order := by
    obtain ⟨metadata', options', source'⟩ := found
    obtain rfl : options' = order.options :=
      options_eq_of_lookup fun key => (hoptions key).trans (h.options_same key)
    have htext (key default : String) :
        textAt project key default = textAt (projectFields order.metadata) key default := by
      simp only [textAt, h.project_same]
    simp only [htext] at hproject
    obtain ⟨⟨name, version, author, copyright, description⟩, options', source⟩ := order
    simp_all [textAt, projectFields, List.lookup_cons, h.source_eq]
  rw [hfound, hsame]

/-- Exactly the records of the right shape are accepted, and all else is rejected for a violation.
What is accepted describes an order: the options are those of the record, entry by entry, and the texts
are those that it holds, with a default only where one is missing.  And the request that spells an
order out is accepted and describes that very order. -/
theorem requests_describe_builds :
    (∀ value, (validate value = .ok () ↔
        ∃ fields project options, value = .object fields ∧ RequestRecord fields project options) ∧
      (validate value ≠ .ok () → ∃ v, validate value = .error (.violation v))) ∧
    (∀ nesting fields project options, RequestRecord fields project options →
      ∃ order, toOrder nesting (.object fields) none = .ok order ∧
        (∀ key, order.options.toRecord.lookup key = options.lookup key) ∧
        order.metadata =
          { name := textAt project "projectName" "MyApp"
            version := textAt project "version" "1.0.0"
            author := textAt project "author" ""
            copyright := textAt project "copyright" ""
            description := textAt project "description" "" } ∧
        order.source = textAt fields "sourceCode" Project.sampleProgram) ∧
    ∀ nesting (order : Order),
      validate (.object (orderFields order)) = .ok () ∧
        toOrder nesting (.object (orderFields order)) none = .ok order := by
  refine ⟨fun value => ⟨validate_eq_ok_iff value, fun hrejected => ?_⟩,
    fun nesting fields project options h => h.exists_order nesting, fun nesting order => ?_⟩
  · rcases validate_cases value with ⟨-, hok⟩ | ⟨-, hviolation⟩
    · exact absurd hok hrejected
    · exact hviolation
  · have hdescribes := describes_orderFields order
    exact ⟨(validate_eq_ok_iff _).2 ⟨_, _, _, rfl, hdescribes.requestRecord⟩, hdescribes.toOrder_eq⟩

/-- A request may leave out all texts but the name, and give its fields in any order. -/
theorem requests_describe_builds_of_name :
    let project : Json.Fields := [("version", .string "2"), ("projectName", .string "Calc")]
    let options : Json.Fields :=
      [ ("allowUnsafe", .bool true), ("architecture", .string "X86")
      , ("outputType", .string "WINDOWED"), ("enableOptimization", .bool false) ]
    let fields : Json.Fields := [("config", .object options), ("metadata", .object project)]
    RequestRecord fields project options ∧
      ∃ order, toOrder {} (.object fields) none = .ok order ∧
        order.metadata = { name := "Calc", version := "2" } ∧
        order.source = Project.sampleProgram := by
  intro project options fields
  have hproject : ProjectRecord project := by
    refine ⟨by decide, ⟨_, rfl⟩, fun key value h => ?_⟩
    obtain ⟨before, after, hsplit, -⟩ := List.lookup_eq_some_iff.1 h
    have hmem : (key, value) ∈ project := by simp [hsplit]
    simp only [project, List.mem_cons, Prod.mk.injEq, List.not_mem_nil, or_false] at hmem
    rcases hmem with h | h <;> exact ⟨_, h.2⟩
  have hoptions : OptionsRecord options :=
    ⟨by decide, ⟨_, by decide, rfl⟩, ⟨_, by decide, rfl⟩, ⟨_, rfl⟩, ⟨_, rfl⟩⟩
  have hrecord : RequestRecord fields project options :=
    ⟨by decide, rfl, rfl, hproject, hoptions, nofun⟩
  obtain ⟨order, horder, -, hnamed, hsource⟩ :=
    requests_describe_builds.2.1 {} fields project options hrecord
  exact ⟨hrecord, order, horder, hnamed, hsource⟩

end Request

end SelfBuild
