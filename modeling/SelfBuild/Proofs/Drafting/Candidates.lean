import SelfBuild.Drafting.Reply

/-!
# The text of an answer

An answer is a record with a list of candidates, and its text is put together from the parts of the first
candidate that has any.  Everything else may stand anywhere in it and be of any kind: it is passed over, and
an answer without a text is refused for one of three reasons.
-/

namespace SelfBuild

namespace Drafting

variable {value candidate : Json.Value} {fields : Json.Fields} {parts candidates : List Json.Value}

/-- A candidate with parts: its content is a record in which there is a list of them. -/
def HasParts (candidate : Json.Value) (parts : List Json.Value) : Prop :=
  ∃ fields content : Json.Fields, candidate = .object fields ∧
    fields.lookup "content" = some (.object content) ∧
    content.lookup "parts" = some (.array parts) ∧ parts ≠ []

/-- The parts that an answer is read from. -/
def FirstParts (value : Json.Value) (parts : List Json.Value) : Prop :=
  ∃ (fields : Json.Fields) (before after : List Json.Value) (candidate : Json.Value),
    value = .object fields ∧
    fields.lookup "candidates" = some (.array (before ++ candidate :: after)) ∧
    (∀ earlier ∈ before, ∀ parts, ¬ HasParts earlier parts) ∧ HasParts candidate parts

/-- What a part says, if it is a record with a text. -/
def said? : Json.Value → Option WideText
  | .object fields =>
      match Json.Fields.lookup fields "text" with
      | some (.string text) => some text
      | _ => none
  | _ => none

def spoken (parts : List Json.Value) : WideText :=
  WideText.join (parts.filterMap said?)

/-- Why there is no text in an answer. -/
inductive Textless (value : Json.Value) : Fault → Prop
  | notRecord (hvalue : ∀ fields, value ≠ .object fields) :
      Textless value (.unexpectedReply value.kindName)
  | notList {fields : Json.Fields} {given : Json.Value} (hvalue : value = .object fields)
      (hgiven : fields.lookup "candidates" = some given) (hpresent : given.isPresent = true)
      (hlist : ∀ candidates, given ≠ .array candidates) : Textless value .candidatesNoList
  | silent {fields : Json.Fields} (hvalue : value = .object fields)
      (hlist : ∀ given, Json.Fields.lookup fields "candidates" = some given → given.isPresent = true →
        ∃ candidates, given = .array candidates)
      (hsilent : ∀ parts, FirstParts value parts → spoken parts = "") : Textless value .noText

/-! ## Parts -/

theorem present?_eq_some_iff {key : WideText} {found : Json.Value} :
    present? value key = some found ↔
      ∃ fields : Json.Fields, value = .object fields ∧ fields.lookup key = some found ∧
        found.isPresent = true := by
  unfold present?
  rw [Option.filter_eq_some_iff, Json.Value.get?_eq_some_iff]
  constructor
  · rintro ⟨⟨fields, hvalue, hfound⟩, hpresent⟩
    exact ⟨fields, hvalue, hfound, hpresent⟩
  · rintro ⟨fields, hvalue, hfound, hpresent⟩
    exact ⟨⟨fields, hvalue, hfound⟩, hpresent⟩

theorem partsOf?_eq_some_iff : partsOf? candidate = some parts ↔ HasParts candidate parts := by
  constructor
  · intro h
    unfold partsOf? at h
    split at h
    · rename_i content hcontent
      split at h
      · rename_i found hfound
        cases h
        obtain ⟨fields, rfl, hfields⟩ := Json.Value.get?_eq_some_iff.1 hcontent
        obtain ⟨inner, rfl, hparts, hpresent⟩ := present?_eq_some_iff.1 hfound
        exact ⟨fields, inner, rfl, hfields, hparts, Json.Value.isPresent_array_iff.1 hpresent⟩
      · cases h
    · cases h
  · rintro ⟨fields, content, rfl, hcontent, hparts, hne⟩
    have hfound : present? (.object content) "parts" = some (.array parts) :=
      present?_eq_some_iff.2 ⟨content, rfl, hparts, Json.Value.isPresent_array_iff.2 hne⟩
    simp only [partsOf?, Json.Value.get?, hcontent, hfound]

theorem partText_eq (part : Json.Value) : partText part = (said? part).getD "" := by
  cases part with
  | object fields =>
      simp only [partText, said?, Json.Value.get?]
      cases Json.Fields.lookup fields "text" with
      | none => rfl
      | some found => cases found <;> rfl
  | _ => rfl

/-- A part that says nothing adds nothing. -/
theorem join_map_partText (parts : List Json.Value) :
    WideText.join (parts.map partText) = spoken parts := by
  induction parts with
  | nil => rfl
  | cons part parts ih =>
      rw [List.map_cons, WideText.join_cons, ih, partText_eq, spoken, spoken, List.filterMap_cons]
      cases said? part with
      | none => simp
      | some text => simp [WideText.join_cons]

/-! ## Candidates -/

theorem firstParts_iff :
    FirstParts value parts ↔
      ∃ candidates, present? value "candidates" = some (.array candidates) ∧
        candidates.findSome? partsOf? = some parts := by
  constructor
  · rintro ⟨fields, before, after, candidate, rfl, hcandidates, hbefore, hparts⟩
    have hpresent : present? (.object fields) "candidates" =
        some (.array (before ++ candidate :: after)) :=
      present?_eq_some_iff.2
        ⟨fields, rfl, hcandidates, Json.Value.isPresent_array_iff.2 (by simp)⟩
    refine ⟨_, hpresent, List.findSome?_eq_some_iff.2
      ⟨before, candidate, after, rfl, partsOf?_eq_some_iff.2 hparts, fun earlier hearlier => ?_⟩⟩
    rw [Option.eq_none_iff_forall_ne_some]
    exact fun found hfound => hbefore earlier hearlier found (partsOf?_eq_some_iff.1 hfound)
  · rintro ⟨candidates, hpresent, hfirst⟩
    obtain ⟨fields, hvalue, hcandidates, -⟩ := present?_eq_some_iff.1 hpresent
    obtain ⟨before, candidate, after, rfl, hparts, hbefore⟩ := List.findSome?_eq_some_iff.1 hfirst
    refine ⟨fields, before, after, candidate, hvalue, hcandidates, fun earlier hearlier found hfound => ?_,
      partsOf?_eq_some_iff.1 hparts⟩
    rw [← partsOf?_eq_some_iff, hbefore earlier hearlier] at hfound
    cases hfound

theorem textOf_eq (candidates : List Json.Value) :
    textOf candidates = ((candidates.findSome? partsOf?).map spoken).getD "" := by
  unfold textOf
  rw [join_map_partText]
  cases candidates.findSome? partsOf? <;> rfl

theorem candidateText_of_list (hpresent : present? value "candidates" = some (.array candidates)) :
    candidateText value =
      if textOf candidates = "" then .error .noText else .ok (textOf candidates) := by
  obtain ⟨fields, rfl, -⟩ := present?_eq_some_iff.1 hpresent
  simp only [candidateText, hpresent, Option.getD_some]

theorem candidateText_of_absent (hpresent : present? (.object fields) "candidates" = none) :
    candidateText (.object fields) = .error .noText := by
  simp only [candidateText, hpresent, Option.getD_none]
  rfl

theorem candidateText_of_silent (hfields : value = .object fields)
    (hlist : ∀ given, Json.Fields.lookup fields "candidates" = some given → given.isPresent = true →
      ∃ candidates, given = .array candidates)
    (hsilent : ∀ parts, FirstParts value parts → spoken parts = "") :
    candidateText value = .error .noText := by
  subst hfields
  cases hpresent : present? (.object fields) "candidates" with
  | none => exact candidateText_of_absent hpresent
  | some given =>
      obtain ⟨_, ⟨⟩, hgiven, hcounts⟩ := present?_eq_some_iff.1 hpresent
      obtain ⟨candidates, rfl⟩ := hlist given hgiven hcounts
      have htext : textOf candidates = "" := by
        rw [textOf_eq]
        cases hfirst : candidates.findSome? partsOf? with
        | none => rfl
        | some parts => exact hsilent parts (firstParts_iff.2 ⟨candidates, hpresent, hfirst⟩)
      rw [candidateText_of_list hpresent, if_pos htext]

theorem Textless.candidateText_eq {fault : Fault} (h : Textless value fault) :
    candidateText value = .error fault := by
  cases h with
  | notRecord hvalue =>
      cases value with
      | object fields => exact absurd rfl (hvalue fields)
      | _ => rfl
  | @notList fields given hvalue hgiven hpresent hlist =>
      subst hvalue
      have hcounts : present? (.object fields) "candidates" = some given :=
        present?_eq_some_iff.2 ⟨fields, rfl, hgiven, hpresent⟩
      simp only [candidateText, hcounts, Option.getD_some]
  | silent hvalue hlist hsilent => exact candidateText_of_silent hvalue hlist hsilent

theorem FirstParts.candidateText_eq (h : FirstParts value parts) :
    candidateText value = if spoken parts = "" then .error .noText else .ok (spoken parts) := by
  obtain ⟨candidates, hpresent, hfirst⟩ := firstParts_iff.1 h
  have htext : textOf candidates = spoken parts := by
    rw [textOf_eq, hfirst]
    rfl
  rw [candidateText_of_list hpresent, htext]

/-- An answer is read from parts that say something, or there is a reason why it has no text. -/
theorem says_or_textless (value : Json.Value) :
    (∃ parts, FirstParts value parts ∧ spoken parts ≠ "") ∨ ∃ fault, Textless value fault := by
  by_cases hsays : ∃ parts, FirstParts value parts ∧ spoken parts ≠ ""
  · exact .inl hsays
  · right
    have hsilent : ∀ parts, FirstParts value parts → spoken parts = "" := by
      intro parts hparts
      exact Decidable.byContradiction fun hne => hsays ⟨parts, hparts, hne⟩
    by_cases hvalue : ∃ fields, value = .object fields
    · obtain ⟨fields, hfields⟩ := hvalue
      by_cases hlist : ∀ given, Json.Fields.lookup fields "candidates" = some given → given.isPresent = true →
          ∃ candidates, given = .array candidates
      · exact ⟨_, .silent hfields hlist hsilent⟩
      · simp only [Classical.not_forall, not_exists] at hlist
        obtain ⟨given, hgiven, hpresent, hnone⟩ := hlist
        exact ⟨_, .notList hfields hgiven hpresent hnone⟩
    · exact ⟨_, .notRecord (not_exists.1 hvalue)⟩

/-- An answer has the text that the first parts in it say, as long as that is not empty, and otherwise one
of three faults.  Answers whose first parts say the same come to the same, whatever else stands in them. -/
theorem text_of_first_parts (value : Json.Value) :
    (∀ text, candidateText value = .ok text ↔
      text ≠ "" ∧ ∃ parts, FirstParts value parts ∧ text = WideText.join (parts.filterMap said?)) ∧
      (∀ fault, candidateText value = .error fault ↔ Textless value fault) ∧
      ∀ other parts parts', FirstParts value parts → FirstParts other parts' →
        parts.filterMap said? = parts'.filterMap said? → candidateText value = candidateText other := by
  have hsaid {parts : List Json.Value} (hparts : FirstParts value parts) (hne : spoken parts ≠ "") :
      candidateText value = .ok (spoken parts) := by
    rw [hparts.candidateText_eq, if_neg hne]
  refine ⟨fun text => ⟨fun h => ?_, ?_⟩, fun fault => ⟨fun h => ?_, fun h => h.candidateText_eq⟩, ?_⟩
  · rcases says_or_textless value with ⟨parts, hparts, hne⟩ | ⟨fault, hfault⟩
    · rw [hsaid hparts hne, Except.ok.injEq] at h
      exact h ▸ ⟨hne, parts, hparts, rfl⟩
    · rw [hfault.candidateText_eq] at h
      cases h
  · rintro ⟨hne, parts, hparts, rfl⟩
    exact hsaid hparts hne
  · rcases says_or_textless value with ⟨parts, hparts, hne⟩ | ⟨other, hother⟩
    · rw [hsaid hparts hne] at h
      cases h
    · rw [hother.candidateText_eq, Except.error.injEq] at h
      exact h ▸ hother
  · intro other parts parts' hparts hparts' hsame
    have hspoken : spoken parts = spoken parts' := congrArg WideText.join hsame
    rw [hparts.candidateText_eq, hparts'.candidateText_eq, hspoken]

/-- Other things stand before, between and behind the two parts that say something. -/
theorem text_of_first_parts_among_others :
    let answer (candidates : List Json.Value) : Json.Value := .object [("candidates", .array candidates)]
    let withParts (parts : List Json.Value) : Json.Value :=
      .object [("content", .object [("parts", .array parts)])]
    let part (text : Json.Value) : Json.Value := .object [("text", text)]
    let parts := [.int 3, part (.string "a"), part (.int 7), .array [part (.string "x")], part (.string "b")]
    let value := answer [.null, withParts [], withParts parts, withParts [part (.string "later")]]
    let other := answer [withParts [part (.string "a"), part (.string "b")]]
    FirstParts value parts ∧ FirstParts other [part (.string "a"), part (.string "b")] ∧
      candidateText value = .ok "ab" ∧ candidateText value = candidateText other := by
  intro answer withParts part parts value other
  have hparts : FirstParts value parts := firstParts_iff.2 ⟨_, rfl, rfl⟩
  have hothers : FirstParts other [part (.string "a"), part (.string "b")] :=
    firstParts_iff.2 ⟨_, rfl, rfl⟩
  obtain ⟨htext, -, hsame⟩ := text_of_first_parts value
  exact ⟨hparts, hothers, (htext "ab").2 ⟨by decide, parts, hparts, by decide⟩,
    hsame other parts _ hparts hothers rfl⟩

end Drafting

end SelfBuild
