import SelfBuild.Proofs.Json.Showing
import SelfBuild.Proofs.Options
import SelfBuild.Proofs.Stages
import SelfBuild.Proofs.Text.Letters

/-!
# Options from records

A record may give each of the four choices under its name or under its key, by any value at all.  Whether
the value means something does not depend on how it is written: the case of ASCII letters and the blanks
around a text are of no account.  What is refused is the first choice, in their order, whose value means
nothing, and it is refused with the value that the record gave.  The refusal shows that value, so a value that
means nothing and cannot be shown is not refused but breaks the reading off.
-/

namespace SelfBuild

namespace Text

theorem capitalsOf_toLower (c : Char) : capitalsOf c.toLower = capitalsOf c :=
  apply_toLower (by decide) c

theorem capitals_map_toLower (s : List Char) : capitals (s.map Char.toLower) = capitals s := by
  rw [capitals, List.flatMap_map, capitals]
  simp only [capitalsOf_toLower]

end Text

namespace Options

variable {choice : Choice} {given other : Json.Value} {fields : Json.Fields} {options : Options}
variable {mismatch : Mismatch} {raw : Raw} {nesting : Json.Nesting}

/-- The choices in the order in which they are checked. -/
def Choice.all : List Choice :=
  [.architecture, .output, .optimize, .allowUnsafe]

def Choice.earlier (choice : Choice) : List Choice :=
  Choice.all.takeWhile (· ≠ choice)

/-- The value of a choice that a record does not give. -/
def Choice.default : Choice → Json.Value
  | .architecture => .string Architecture.anyCpu.word
  | .output => .string OutputKind.console.word
  | .optimize => .bool true
  | .allowUnsafe => .bool false

/-- The value that is used for a choice.  What stands under its name hides what stands under its key, and a
null is a value like any other. -/
def Choice.used (choice : Choice) (fields : Json.Fields) : Json.Value :=
  match fields.lookup choice.name, fields.lookup choice.key with
  | some value, _ => value
  | none, some value => value
  | none, none => choice.default

def Raw.value (raw : Raw) : Choice → Json.Value
  | .architecture => raw.architecture
  | .output => raw.output
  | .optimize => raw.optimize
  | .allowUnsafe => raw.allowUnsafe

/-- A text that is a word once its blanks are off and its letters are capitals. -/
def Spells (word : String) : Json.Value → Prop
  | .string s => Text.capitals (Text.trim s.toList) = word.toList
  | _ => False

/-- A truth value, or a text that is one of its words once its blanks are off and its letters are small. -/
def Says (b : Bool) : Json.Value → Prop
  | .bool given => given = b
  | .string s => String.ofList (Text.lower (Text.trim s.toList)) ∈ if b then yesWords else noWords
  | _ => False

/-- What a value has to be for these options to be meant in one choice. -/
def Choice.Means (options : Options) : Choice → Json.Value → Prop
  | .architecture => Spells options.architecture.word
  | .output => Spells options.output.word
  | .optimize => Says options.optimize
  | .allowUnsafe => Says options.allowUnsafe

/-- A value that means something for a choice. -/
def Choice.Understood : Choice → Json.Value → Prop
  | .architecture, value => ∃ a : Architecture, Spells a.word value
  | .output, value => ∃ o : OutputKind, Spells o.word value
  | .optimize, value => ∃ b, Says b value
  | .allowUnsafe, value => ∃ b, Says b value

/-- The first of the choices whose value means nothing. -/
structure First (used : Choice → Json.Value) (mismatch : Mismatch) : Prop where
  given_eq : mismatch.given = used mismatch.choice
  meaningless : ¬ mismatch.choice.Understood mismatch.given
  earlier : ∀ choice ∈ mismatch.choice.earlier, choice.Understood (used choice)

/-- Another way to write a value: a text may change the case of its ASCII letters and get blanks around it. -/
inductive Restyled : Json.Value → Json.Value → Prop
  | same (value : Json.Value) : Restyled value value
  | text {s t : WideText} {before core after : List Char}
      (hbefore : ∀ c ∈ before, Text.isBlank c = true)
      (hafter : ∀ c ∈ after, Text.isBlank c = true)
      (hcore : core.map Char.toLower = s.toList.map Char.toLower)
      (ht : t.toList = before ++ core ++ after) : Restyled (.string s) (.string t)

/-! ## One choice -/

theorem member?_eq_some_iff {α : Type} {members : List α} {word : α → String} {s : WideText} {member : α}
    (hall : ∀ member, member ∈ members)
    (hword : ∀ member member', word member = word member' → member = member') :
    member? members word s = some member ↔ Text.capitals (Text.trim s.toList) = (word member).toList := by
  constructor
  · intro h
    have hspelled := List.find?_some (p := fun member => (word member).toList == _) h
    exact (eq_of_beq hspelled).symm
  · intro h
    have hfound : ∃ found, member? members word s = some found := by
      rw [member?, ← Option.isSome_iff_exists, List.find?_isSome]
      exact ⟨member, hall member, by rw [h]; exact beq_self_eq_true _⟩
    obtain ⟨found, hfound⟩ := hfound
    have hspelled : (word found).toList = (word member).toList := by
      rw [← h]
      exact eq_of_beq (List.find?_some (p := fun member => (word member).toList == _) hfound)
    rw [hfound, hword found member (String.toList_inj.1 hspelled)]

theorem flag?_eq_some_iff {s : WideText} {b : Bool} :
    flag? s = some b ↔
      String.ofList (Text.lower (Text.trim s.toList)) ∈ if b then yesWords else noWords := by
  have hdisjoint : ∀ word ∈ yesWords, word ∉ noWords := by decide
  simp only [flag?, List.contains_iff_mem]
  split
  · next hyes => cases b <;> simp [hyes, hdisjoint _ hyes]
  · next hyes =>
      split
      · next hno => cases b <;> simp [hyes, hno]
      · next hno => cases b <;> simp [hyes, hno]

theorem coerceMember_eq_ok_iff {α : Type} {members : List α} {word : α → String} {member : α}
    (hall : ∀ member, member ∈ members)
    (hword : ∀ member member', word member = word member' → member = member') :
    coerceMember choice members word given = .ok member ↔ Spells (word member) given := by
  cases given with
  | string s =>
      rw [Spells, ← member?_eq_some_iff hall hword, coerceMember]
      cases member? members word s <;> simp
  | _ => simp [coerceMember, Spells]

theorem coerce_architecture_eq_ok_iff {a : Architecture} :
    coerceMember choice Architecture.all Architecture.word given = .ok a ↔ Spells a.word given :=
  coerceMember_eq_ok_iff (by intro a; cases a <;> decide)
    (by intro a b; cases a <;> cases b <;> decide)

theorem coerce_output_eq_ok_iff {o : OutputKind} :
    coerceMember choice OutputKind.all OutputKind.word given = .ok o ↔ Spells o.word given :=
  coerceMember_eq_ok_iff (by intro o; cases o <;> decide)
    (by intro o p; cases o <;> cases p <;> decide)

theorem coerceFlag_eq_ok_iff {b : Bool} : coerceFlag choice given = .ok b ↔ Says b given := by
  cases given with
  | string s =>
      rw [Says, ← flag?_eq_some_iff, coerceFlag]
      cases flag? s <;> simp
  | _ => simp [coerceFlag, Says]

theorem coerceMember_eq_error_iff {α : Type} {members : List α} {word : α → String} :
    coerceMember choice members word given = .error mismatch ↔
      mismatch = ⟨choice, given⟩ ∧ ∀ member, coerceMember choice members word given ≠ .ok member := by
  cases given with
  | string s => cases hmember : member? members word s <;> simp [coerceMember, hmember, eq_comm]
  | _ => simp [coerceMember, eq_comm]

theorem coerceFlag_eq_error_iff :
    coerceFlag choice given = .error mismatch ↔
      mismatch = ⟨choice, given⟩ ∧ ∀ b, coerceFlag choice given ≠ .ok b := by
  cases given with
  | string s => cases hflag : flag? s <;> simp [coerceFlag, hflag, eq_comm]
  | _ => simp [coerceFlag, eq_comm]

/-! ## The four choices, one after the other -/

/-- Options are made exactly when each value means what they say. -/
theorem Raw.resolve_eq_ok_iff :
    raw.resolve = .ok options ↔ ∀ choice : Choice, choice.Means options (raw.value choice) := by
  simp only [Raw.resolve, bind_eq_ok_iff, coerce_architecture_eq_ok_iff, coerce_output_eq_ok_iff,
    coerceFlag_eq_ok_iff, Except.ok.injEq]
  constructor
  · rintro ⟨a, ha, o, ho, n, hn, u, hu, rfl⟩ choice
    cases choice
    · exact ha
    · exact ho
    · exact hn
    · exact hu
  · intro h
    exact ⟨_, h .architecture, _, h .output, _, h .optimize, _, h .allowUnsafe, rfl⟩

/-- A mismatch is that of the first value that means nothing. -/
theorem Raw.resolve_eq_error_iff : raw.resolve = .error mismatch ↔ First raw.value mismatch := by
  -- A stage that fails is reached only past stages that gave something, which is what `earlier` says.
  simp only [Raw.resolve, bind_eq_error_iff, coerceMember_eq_error_iff, coerceFlag_eq_error_iff,
    coerce_architecture_eq_ok_iff, coerce_output_eq_ok_iff, coerceFlag_eq_ok_iff, ne_eq,
    ← not_exists, reduceCtorEq, and_false, exists_const, or_false]
  constructor
  · rintro (⟨rfl, h⟩ | ⟨a, ha, ⟨rfl, h⟩ | ⟨o, ho, ⟨rfl, h⟩ | ⟨n, hn, ⟨rfl, h⟩⟩⟩⟩)
    · exact ⟨rfl, h, List.forall_mem_nil _⟩
    · exact ⟨rfl, h, List.forall_mem_cons.2 ⟨⟨a, ha⟩, List.forall_mem_nil _⟩⟩
    · exact ⟨rfl, h, List.forall_mem_cons.2 ⟨⟨a, ha⟩, List.forall_mem_cons.2 ⟨⟨o, ho⟩, List.forall_mem_nil _⟩⟩⟩
    · exact ⟨rfl, h, List.forall_mem_cons.2 ⟨⟨a, ha⟩, List.forall_mem_cons.2 ⟨⟨o, ho⟩,
        List.forall_mem_cons.2 ⟨⟨n, hn⟩, List.forall_mem_nil _⟩⟩⟩⟩
  · obtain ⟨choice, given⟩ := mismatch
    rintro ⟨hgiven, h, hbefore⟩
    obtain rfl : given = raw.value choice := hgiven
    have hearlier : ∀ before ∈ choice.earlier, before.Understood (raw.value before) := hbefore
    cases choice with
    | architecture => exact .inl ⟨rfl, h⟩
    | output =>
        obtain ⟨a, ha⟩ := hearlier .architecture (by decide)
        exact .inr ⟨a, ha, .inl ⟨rfl, h⟩⟩
    | optimize =>
        obtain ⟨a, ha⟩ := hearlier .architecture (by decide)
        obtain ⟨o, ho⟩ := hearlier .output (by decide)
        exact .inr ⟨a, ha, .inr ⟨o, ho, .inl ⟨rfl, h⟩⟩⟩
    | allowUnsafe =>
        obtain ⟨a, ha⟩ := hearlier .architecture (by decide)
        obtain ⟨o, ho⟩ := hearlier .output (by decide)
        obtain ⟨n, hn⟩ := hearlier .optimize (by decide)
        exact .inr ⟨a, ha, .inr ⟨o, ho, .inr ⟨n, hn, ⟨rfl, h⟩⟩⟩⟩

theorem understood_iff_means : choice.Understood given ↔ ∃ options, choice.Means options given := by
  cases choice with
  | architecture => exact ⟨fun ⟨a, h⟩ => ⟨{ architecture := a }, h⟩, fun ⟨_, h⟩ => ⟨_, h⟩⟩
  | output => exact ⟨fun ⟨o, h⟩ => ⟨{ output := o }, h⟩, fun ⟨_, h⟩ => ⟨_, h⟩⟩
  | optimize => exact ⟨fun ⟨b, h⟩ => ⟨{ optimize := b }, h⟩, fun ⟨_, h⟩ => ⟨_, h⟩⟩
  | allowUnsafe => exact ⟨fun ⟨b, h⟩ => ⟨{ allowUnsafe := b }, h⟩, fun ⟨_, h⟩ => ⟨_, h⟩⟩

/-- Options can be made exactly if every value means something. -/
theorem Raw.exists_resolve_eq_ok_iff :
    (∃ options, raw.resolve = .ok options) ↔
      ∀ choice : Choice, choice.Understood (raw.value choice) := by
  simp only [Raw.resolve_eq_ok_iff]
  constructor
  · rintro ⟨options, h⟩ choice
    exact understood_iff_means.2 ⟨options, h choice⟩
  · intro h
    obtain ⟨a, ha⟩ := h .architecture
    obtain ⟨o, ho⟩ := h .output
    obtain ⟨n, hn⟩ := h .optimize
    obtain ⟨u, hu⟩ := h .allowUnsafe
    refine ⟨⟨a, o, n, u⟩, fun choice => ?_⟩
    cases choice
    · exact ha
    · exact ho
    · exact hn
    · exact hu

/-! ## What a record gives -/

theorem Raw.value_ofRecord (choice : Choice) :
    (Raw.ofRecord fields).value choice = choice.used fields := by
  have hpick : (fields.pick? [choice.name, choice.key]).getD choice.default = choice.used fields := by
    unfold Choice.used
    cases hname : fields.lookup choice.name <;> cases hkey : fields.lookup choice.key <;>
      simp [Json.Fields.pick?, hname, hkey]
  cases choice <;> exact hpick

theorem Raw.eq_of_value {raw' : Raw} (h : ∀ choice, raw.value choice = raw'.value choice) :
    raw = raw' := by
  obtain ⟨a, o, n, u⟩ := raw
  obtain ⟨a', o', n', u'⟩ := raw'
  obtain rfl : a = a' := h .architecture
  obtain rfl : o = o' := h .output
  obtain rfl : n = n' := h .optimize
  obtain rfl : u = u' := h .allowUnsafe
  rfl

/-! ## Other ways to write a value -/

theorem Restyled.trimmed {s t : WideText} (h : Restyled (.string s) (.string t)) :
    (Text.trim t.toList).map Char.toLower = (Text.trim s.toList).map Char.toLower := by
  cases h with
  | same => rfl
  | text hbefore hafter hcore ht =>
      rw [ht, Text.trim_blank_append_blank hbefore hafter, ← Text.trim_map_toLower, hcore,
        Text.trim_map_toLower]

theorem Restyled.spells_iff (h : Restyled given other) {word : String} :
    Spells word other ↔ Spells word given := by
  cases h with
  | same => rfl
  | text hbefore hafter hcore ht =>
      have htrimmed := (Restyled.text hbefore hafter hcore ht).trimmed
      rw [Spells, Spells, ← Text.capitals_map_toLower, htrimmed, Text.capitals_map_toLower]

theorem Restyled.says_iff (h : Restyled given other) {b : Bool} : Says b other ↔ Says b given := by
  cases h with
  | same => rfl
  | text hbefore hafter hcore ht =>
      have htrimmed := (Restyled.text hbefore hafter hcore ht).trimmed
      rw [Says, Says, ← Text.lower_map_toLower, htrimmed, Text.lower_map_toLower]

theorem Restyled.means_iff (h : Restyled given other) :
    choice.Means options other ↔ choice.Means options given := by
  cases choice with
  | architecture => exact h.spells_iff
  | output => exact h.spells_iff
  | optimize => exact h.says_iff
  | allowUnsafe => exact h.says_iff

theorem Restyled.understood_iff (h : Restyled given other) :
    choice.Understood other ↔ choice.Understood given := by
  rw [understood_iff_means, understood_iff_means]
  exact exists_congr fun _ => h.means_iff

theorem First.restyled {used others : Choice → Json.Value} (h : First used mismatch)
    (hrestyled : ∀ choice, Restyled (used choice) (others choice)) :
    First others ⟨mismatch.choice, others mismatch.choice⟩ where
  given_eq := rfl
  meaningless := by
    rw [(hrestyled _).understood_iff, ← h.given_eq]
    exact h.meaningless
  earlier choice hchoice := (hrestyled choice).understood_iff.2 (h.earlier choice hchoice)

theorem Restyled.showFault?_eq (h : Restyled given other) :
    other.showFault? nesting = given.showFault? nesting := by
  cases h <;> simp

/-! ## Any record -/

theorem ofRecord_eq_ok_iff :
    ofRecord nesting fields = .ok options ↔
      ∀ choice : Choice, choice.Means options (choice.used fields) := by
  simp only [ofRecord, Raw.coerce_eq_ok_iff, Raw.resolve_eq_ok_iff, Raw.value_ofRecord]

theorem exists_ofRecord_eq_ok_iff :
    (∃ options, ofRecord nesting fields = .ok options) ↔
      ∀ choice : Choice, choice.Understood (choice.used fields) := by
  simp only [ofRecord, Raw.coerce_eq_ok_iff, Raw.exists_resolve_eq_ok_iff, Raw.value_ofRecord]

theorem ofRecord_eq_error_iff {fault : Fault} :
    ofRecord nesting fields = .error fault ↔
      ∃ mismatch, First (·.used fields) mismatch ∧ mismatch.report nesting = fault := by
  have hvalue : (Raw.ofRecord fields).value = (·.used fields) := funext Raw.value_ofRecord
  simp only [ofRecord, Raw.coerce_eq_error_iff, Raw.resolve_eq_error_iff, hvalue]

theorem report_eq_mismatch_iff {other : Mismatch} :
    other.report nesting = .mismatch mismatch ↔
      other = mismatch ∧ mismatch.given.Showable nesting := by
  rw [← Json.showFault?_eq_none_iff, Mismatch.report]
  cases hfault : other.given.showFault? nesting with
  | none =>
      rw [Fault.mismatch.injEq]
      constructor
      · rintro rfl
        exact ⟨rfl, hfault⟩
      · exact And.left
  | some fault =>
      constructor
      · intro h
        cases h
      · rintro ⟨rfl, hnone⟩
        rw [hfault] at hnone
        cases hnone

theorem exists_report_eq_unshowable_iff :
    (∃ fault, mismatch.report nesting = .unshowable fault) ↔ ¬ mismatch.given.Showable nesting := by
  rw [← Json.exists_showFault_iff, Mismatch.report]
  cases mismatch.given.showFault? nesting <;> simp

/-- A value is refused as the first one that means nothing, if it can be shown. -/
theorem ofRecord_eq_mismatch_iff :
    ofRecord nesting fields = .error (.mismatch mismatch) ↔
      First (·.used fields) mismatch ∧ mismatch.given.Showable nesting := by
  simp only [ofRecord_eq_error_iff, report_eq_mismatch_iff]
  constructor
  · rintro ⟨_, hfirst, rfl, hshow⟩
    exact ⟨hfirst, hshow⟩
  · rintro ⟨hfirst, hshow⟩
    exact ⟨mismatch, hfirst, rfl, hshow⟩

theorem exists_ofRecord_eq_unshowable_iff :
    (∃ fault, ofRecord nesting fields = .error (.unshowable fault)) ↔
      ∃ mismatch, First (·.used fields) mismatch ∧ ¬ mismatch.given.Showable nesting := by
  simp only [ofRecord_eq_error_iff, ← exists_report_eq_unshowable_iff]
  constructor
  · rintro ⟨fault, mismatch, hfirst, hreport⟩
    exact ⟨mismatch, hfirst, fault, hreport⟩
  · rintro ⟨mismatch, hfirst, fault, hreport⟩
    exact ⟨fault, mismatch, hfirst, hreport⟩

/-- A fault with the value that another record gives. -/
def Fault.rewritten (others : Json.Fields) : Fault → Fault
  | .mismatch m => .mismatch ⟨m.choice, m.choice.used others⟩
  | .unshowable fault => .unshowable fault

theorem report_restyled {others : Json.Fields} (hgiven : mismatch.given = mismatch.choice.used fields)
    (h : Restyled (mismatch.choice.used fields) (mismatch.choice.used others)) :
    Mismatch.report nesting ⟨mismatch.choice, mismatch.choice.used others⟩ =
      (mismatch.report nesting).rewritten others := by
  have hfault : (mismatch.choice.used others).showFault? nesting =
      (mismatch.choice.used fields).showFault? nesting := h.showFault?_eq
  rw [← hgiven] at hfault
  simp only [Mismatch.report, hfault]
  cases mismatch.given.showFault? nesting <;> rfl

/-- A record that writes the same values in another way is understood in the same way, and what is refused
is the same choice. -/
theorem ofRecord_restyled {others : Json.Fields}
    (h : ∀ choice : Choice, Restyled (choice.used fields) (choice.used others)) :
    ofRecord nesting others = (ofRecord nesting fields).mapError (Fault.rewritten others) := by
  cases hfields : ofRecord nesting fields with
  | ok options =>
      exact ofRecord_eq_ok_iff.2 fun choice => (h choice).means_iff.2 (ofRecord_eq_ok_iff.1 hfields choice)
  | error fault =>
      obtain ⟨mismatch, hfirst, rfl⟩ := ofRecord_eq_error_iff.1 hfields
      exact ofRecord_eq_error_iff.2
        ⟨_, hfirst.restyled h, report_restyled hfirst.given_eq (h mismatch.choice)⟩

theorem used_congr {others : Json.Fields} (hname : others.lookup choice.name = fields.lookup choice.name)
    (hkey : others.lookup choice.key = fields.lookup choice.key) :
    choice.used others = choice.used fields := by
  rw [Choice.used, Choice.used, hname, hkey]

theorem ofRecord_congr {others : Json.Fields}
    (h : ∀ choice : Choice, choice.used others = choice.used fields) :
    ofRecord nesting others = ofRecord nesting fields := by
  have hraw : Raw.ofRecord others = Raw.ofRecord fields :=
    Raw.eq_of_value fun choice => by rw [Raw.value_ofRecord, Raw.value_ofRecord, h]
  rw [ofRecord, hraw, ofRecord]

theorem ofRecord_toRecord (nesting : Json.Nesting) (options : Options) :
    ofRecord nesting options.toRecord = .ok options := by
  obtain ⟨a, o, n, u⟩ := options
  have hraw : Raw.ofRecord (toRecord ⟨a, o, n, u⟩) = toRaw ⟨a, o, n, u⟩ := rfl
  rw [ofRecord, hraw, coerce_toRaw]

/-- Every record gives options, a mismatch or a value that cannot be shown, and the four values that it uses
settle which: options exactly if each value means something, and then those that are meant.  Otherwise the
first choice whose value means nothing is refused, and the refusal is a mismatch exactly if that value can be
shown.  The choices are listed in their order, with the code and the field of their notes.

Writing the values in another way changes nothing, except that a value which is refused is quoted as it is
written.  What stands under other keys changes nothing at all.  Options are read back from their own
record. -/
theorem options_of_record (nesting : Json.Nesting) (fields : Json.Fields) :
    (∀ choice : Choice, (Raw.ofRecord fields).value choice = choice.used fields) ∧
      (∀ options, ofRecord nesting fields = .ok options ↔
        ∀ choice : Choice, choice.Means options (choice.used fields)) ∧
      ((∃ options, ofRecord nesting fields = .ok options) ↔
        ∀ choice : Choice, choice.Understood (choice.used fields)) ∧
      (∀ mismatch, ofRecord nesting fields = .error (.mismatch mismatch) ↔
        First (·.used fields) mismatch ∧ mismatch.given.Showable nesting) ∧
      ((∃ fault, ofRecord nesting fields = .error (.unshowable fault)) ↔
        ∃ mismatch, First (·.used fields) mismatch ∧ ¬ mismatch.given.Showable nesting) ∧
      Choice.all.map (fun choice => (choice.code, choice.name)) =
        [("EXF-CFG-0001", "target_architecture"), ("EXF-CFG-0002", "output_type"),
          ("EXF-CFG-0003", "enable_optimization"), ("EXF-CFG-0003", "allow_unsafe")] ∧
      (∀ others : Json.Fields,
        (∀ choice : Choice, Restyled (choice.used fields) (choice.used others)) →
        ofRecord nesting others = (ofRecord nesting fields).mapError (Fault.rewritten others)) ∧
      (∀ others : Json.Fields,
        (∀ choice : Choice, others.lookup choice.name = fields.lookup choice.name ∧
          others.lookup choice.key = fields.lookup choice.key) →
        ofRecord nesting others = ofRecord nesting fields) ∧
      ∀ options : Options, ofRecord nesting options.toRecord = .ok options := by
  refine ⟨Raw.value_ofRecord, fun _ => ofRecord_eq_ok_iff, exists_ofRecord_eq_ok_iff,
    fun _ => ofRecord_eq_mismatch_iff, exists_ofRecord_eq_unshowable_iff, rfl, fun _ => ofRecord_restyled,
    ?_, ofRecord_toRecord nesting⟩
  intro others h
  exact ofRecord_congr fun choice => used_congr (h choice).1 (h choice).2

/-- A name hides the key beside it and a null is refused, also when the architecture before it is written in
small letters with blanks around and when the record says more. -/
theorem options_of_record_of_null :
    let fields : Json.Fields := [("target_architecture", .string "X86"), ("architecture", .null),
      ("outputType", .null)]
    let others : Json.Fields := [("outputType", .null), ("architecture", .string " x86\n"),
      ("log", .array [])]
    (∀ choice : Choice, Restyled (choice.used fields) (choice.used others)) ∧
      ofRecord {} fields = .error (.mismatch ⟨.output, .null⟩) ∧
      ofRecord {} others = .error (.mismatch ⟨.output, .null⟩) ∧
      ofRecord {} (fields ++ ([("log", .array [])] : Json.Fields)) = .error (.mismatch ⟨.output, .null⟩) := by
  intro fields others
  obtain ⟨-, -, -, -, -, -, hrestyled, hadded, -⟩ := options_of_record {} fields
  have hused : ∀ choice : Choice, Restyled (choice.used fields) (choice.used others)
    | .architecture =>
        @Restyled.text _ _ [' '] "x86".toList ['\n'] (by decide) (by decide) rfl rfl
    | .output => .same _
    | .optimize => .same _
    | .allowUnsafe => .same _
  refine ⟨hused, rfl, hrestyled others hused, ?_⟩
  exact hadded _ fun choice => by cases choice <;> exact ⟨rfl, rfl⟩

/-- An integer of 4301 digits and an array of 2000 levels mean nothing as an architecture, and are refused
without a mismatch. -/
theorem unshowable_architectures :
    let long : Json.Value := .int Json.digitBound
    let deep : Json.Value := Json.Value.levels 2000
    ∀ given ∈ [long, deep], ∃ fault, ofRecord {} [("architecture", given)] = .error (.unshowable fault) := by
  intro long deep given hgiven
  simp only [List.mem_cons, List.not_mem_nil, or_false] at hgiven
  have hshow : ¬ given.Showable {} := by
    intro hshow
    rcases hgiven with rfl | rfl
    · have hdigits := (hshow 0 long (.self long)).2 _ rfl
      rw [Int.natAbs_natCast] at hdigits
      exact Nat.lt_irrefl _ hdigits
    · exact absurd (hshow 2000 .null (Json.Value.holds_levels 2000)).1 (by decide)
  have hfirst : First (Choice.used · [("architecture", given)]) ⟨.architecture, given⟩ := by
    refine ⟨rfl, ?_, List.forall_mem_nil _⟩
    rintro ⟨a, ha⟩
    rcases hgiven with rfl | rfl
    · exact ha
    · exact ha
  exact exists_ofRecord_eq_unshowable_iff.2 ⟨_, hfirst, hshow⟩

end Options

end SelfBuild
