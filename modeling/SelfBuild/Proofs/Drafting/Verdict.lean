import SelfBuild.Proofs.Drafting.Exchange
import SelfBuild.Proofs.Drafting.Secrecy
import SelfBuild.Proofs.Json.Limits

/-!
# What every reply comes to

With a key, one post is sent and every reply has its answer: the draft or the correction that it brings, and
otherwise the program that stands in for a draft, or the program under review as it was.  The only replies
without an answer are those that are beyond the limits of the reader.
-/

namespace SelfBuild

namespace Drafting

variable {nesting : Json.Nesting} {limits : Json.Limits} {settings : Settings} {reply : Reply}
variable {text source : WideText} {verdict other : Review}

/-! ## What a reply says of a program -/

/-- A reply puts a program forward: its text is an object with a correction that is not blank. -/
def Reply.Corrects (limits : Json.Limits) (reply : Reply) (verdict : Review) : Prop :=
  ∃ (text : WideText) (fields : Json.Fields), reply.Brings limits.reply text ∧
    Json.read limits.review text = .ok (.object fields) ∧
    fields.lookup "correctedCode" = some (.string verdict.corrected) ∧
    Text.allBlank verdict.corrected.toList = false ∧
    verdict.analysis = analysisOf (.object fields)

/-- The review of a program that a reply comes to. -/
inductive Reply.Reviews (limits : Json.Limits) (reply : Reply) (source : WideText) : Review → Prop
  | corrected {verdict : Review} (hcorrects : reply.Corrects limits verdict) :
      Reviews limits reply source verdict
  | kept (hnothing : ∀ verdict, ¬ reply.Corrects limits verdict) :
      Reviews limits reply source ⟨source, failedAnalysis⟩

/-- A reply is beyond the limits of the reader, or brings a text that is. -/
def Reply.Overtaxes (limits : Json.Limits) (reply : Reply) : Prop :=
  reply.TooDeep limits.reply ∨ ∃ text, reply.Brings limits.reply text ∧ Json.BeyondLimits limits.review text

theorem Reply.Brings.not_overtaxes (h : reply.Brings limits.reply text)
    (hlimits : ¬ Json.BeyondLimits limits.review text) : ¬ reply.Overtaxes limits := by
  rintro (hdeep | ⟨other, hother, hbeyond⟩)
  · exact h.not_tooDeep hdeep
  · exact hlimits (h.unique hother ▸ hbeyond)

theorem correction?_eq_some_iff {value : Json.Value} {code : WideText} :
    correction? value = some code ↔
      ∃ fields : Json.Fields, value = .object fields ∧ fields.lookup "correctedCode" = some (.string code) ∧
        Text.allBlank code.toList = false := by
  unfold correction?
  cases value with
  | object fields =>
      simp only [Json.Value.get?, Json.Value.object.injEq, exists_eq_left']
      cases hlookup : Json.Fields.lookup fields "correctedCode" with
      | none => simp
      | some found =>
          cases found with
          | string text =>
              cases hblank : Text.allBlank text.toList with
              | true =>
                  simp only [hblank, if_true, Option.some.injEq, Json.Value.string.injEq,
                    reduceCtorEq, false_iff, not_and]
                  rintro rfl
                  simp [hblank]
              | false =>
                  simp only [hblank, Bool.false_eq_true, if_false, Option.some.injEq,
                    Json.Value.string.injEq, iff_self_and]
                  rintro rfl
                  exact hblank
          | _ => simp
  | _ => simp [Json.Value.get?]

theorem Reply.Corrects.of_correction? {value : Json.Value} {code : WideText}
    (hbrings : reply.Brings limits.reply text) (hread : Json.read limits.review text = .ok value)
    (hcode : correction? value = some code) :
    reply.Corrects limits ⟨code, analysisOf value⟩ := by
  obtain ⟨fields, rfl, hlookup, hblank⟩ := correction?_eq_some_iff.1 hcode
  exact ⟨text, fields, hbrings, hread, hlookup, hblank, rfl⟩

/-- What a reply puts forward is what its text is taken for. -/
theorem Reply.Corrects.exists_correction? (h : reply.Corrects limits verdict)
    (hbrings : reply.Brings limits.reply text) :
    ∃ value, Json.read limits.review text = .ok value ∧ correction? value = some verdict.corrected ∧
      analysisOf value = verdict.analysis := by
  obtain ⟨other, fields, hother, hread, hlookup, hblank, hanalysis⟩ := h
  obtain rfl : other = text := hbrings.unique hother
  exact ⟨_, hread, correction?_eq_some_iff.2 ⟨fields, rfl, hlookup, hblank⟩, hanalysis.symm⟩

theorem Reply.Corrects.unique (h : reply.Corrects limits verdict) (hother : reply.Corrects limits other) :
    other = verdict := by
  obtain ⟨text, fields, hbrings, -⟩ := id h
  obtain ⟨value, hread, hcode, hanalysis⟩ := h.exists_correction? hbrings
  obtain ⟨value', hread', hcode', hanalysis'⟩ := hother.exists_correction? hbrings
  obtain rfl : value = value' := Except.ok.inj (hread.symm.trans hread')
  have hcorrected : other.corrected = verdict.corrected := Option.some.inj (hcode'.symm.trans hcode)
  have hsame : other.analysis = verdict.analysis := hanalysis'.symm.trans hanalysis
  cases other
  cases verdict
  simp_all

theorem Reply.Reviews.unique (h : reply.Reviews limits source verdict)
    (hother : reply.Reviews limits source other) : other = verdict := by
  cases h with
  | corrected hcorrects =>
      cases hother with
      | corrected hcorrects' => exact hcorrects.unique hcorrects'
      | kept hnothing => exact absurd hcorrects (hnothing _)
  | kept hnothing =>
      cases hother with
      | corrected hcorrects => exact absurd hcorrects (hnothing _)
      | kept => rfl

/-- A review is blank only if the program under review is. -/
theorem Reply.Reviews.allBlank (h : reply.Reviews limits source verdict)
    (hblank : Text.allBlank verdict.corrected.toList = true) :
    Text.allBlank source.toList = true := by
  cases h with
  | kept => exact hblank
  | corrected hcorrects =>
      obtain ⟨-, -, -, -, -, hnot, -⟩ := hcorrects
      rw [hnot] at hblank
      cases hblank

/-! ## Posts -/

theorem exists_post_draft (hkey : settings.apiKey.isPresent = true) (description : WideText)
    (console : Bool) :
    ∃ post, (draft limits settings description console reply).posts = [post] := by
  rw [draft_eq_settle hkey, generate_of_key hkey]
  exact ⟨_, rfl⟩

theorem exists_post_review (hkey : settings.apiKey.isPresent = true) (source : WideText) :
    ∃ post, (review limits settings source reply).posts = [post] := by
  rw [review_eq_settle hkey, generate_of_key hkey]
  exact ⟨_, rfl⟩

/-! ## Reviews -/

theorem review_of_noKey (hkey : settings.apiKey.isPresent = false) :
    review limits settings source reply = { result := .error .noKey } := by
  simp only [review, hkey, Bool.false_eq_true, if_false]

theorem review_of_brings (hkey : settings.apiKey.isPresent = true) (h : reply.Brings limits.reply text)
    (source : WideText) :
    (review limits settings source reply).result = (reviewVerdict limits.review source (.ok text)).1 := by
  have htext : reply.text limits.reply (Drafting.url settings) = .ok text := Reply.text_eq_ok_iff.2 h
  rw [review_eq_settle hkey, generate_of_key hkey, htext]
  rfl

/-- A text that was brought either is within the limits, and then it is the review, or ends it. -/
theorem reviewVerdict_cases (h : reply.Brings limits.reply text) (source : WideText) :
    (∃ verdict, reply.Reviews limits source verdict ∧
        (reviewVerdict limits.review source (.ok text)).1 = .ok verdict ∧
        ¬ Json.BeyondLimits limits.review text) ∨
      ∃ fault, (reviewVerdict limits.review source (.ok text)).1 = .error (.beyondLimits fault) ∧
        Json.BeyondLimits limits.review text := by
  cases hread : Json.read limits.review text with
  | error fault =>
      cases hshape : fault.isSyntax with
      | false =>
          refine .inr ⟨fault, ?_, Json.beyondLimits_iff.2 ⟨fault, hread, hshape⟩⟩
          simp only [reviewVerdict, hread, hshape, Bool.false_eq_true, if_false]
      | true =>
          refine .inl ⟨_, .kept fun verdict hcorrects => ?_, ?_, fun hlimits => ?_⟩
          · obtain ⟨value, hvalue, -⟩ := hcorrects.exists_correction? h
            rw [hread] at hvalue
            cases hvalue
          · simp only [reviewVerdict, hread, hshape, if_true, keptVerdict]
          · obtain ⟨other, hother, hnot⟩ := Json.beyondLimits_iff.1 hlimits
            obtain rfl : fault = other := Except.error.inj (hread.symm.trans hother)
            rw [hshape] at hnot
            cases hnot
  | ok value =>
      have hlimits : ¬ Json.BeyondLimits limits.review text := Json.not_beyondLimits hread
      cases hcode : correction? value with
      | some code =>
          refine .inl ⟨_, .corrected (.of_correction? h hread hcode), ?_, hlimits⟩
          simp only [reviewVerdict, hread, hcode]
      | none =>
          refine .inl ⟨_, .kept fun verdict hcorrects => ?_, ?_, hlimits⟩
          · obtain ⟨other, hother, hsome, -⟩ := hcorrects.exists_correction? h
            obtain rfl : value = other := Except.ok.inj (hread.symm.trans hother)
            rw [hcode] at hsome
            cases hsome
          · simp only [reviewVerdict, hread, hcode, keptVerdict]

/-- A review is what the reply comes to, or the reply is beyond the limits. -/
theorem review_cases (limits : Json.Limits) (hkey : settings.apiKey.isPresent = true) (reply : Reply)
    (source : WideText) :
    (∃ verdict, reply.Reviews limits source verdict ∧
        (review limits settings source reply).result = .ok verdict ∧ ¬ reply.Overtaxes limits) ∨
      ∃ fault, (review limits settings source reply).result = .error (.beyondLimits fault) ∧
        reply.Overtaxes limits := by
  rcases reply.cases limits.reply with ⟨text, hbrings⟩ | hfails | hdeep
  · rw [review_of_brings hkey hbrings]
    rcases reviewVerdict_cases hbrings source with
      ⟨verdict, hreviews, hverdict, hlimits⟩ | ⟨fault, hverdict, hlimits⟩
    · exact .inl ⟨verdict, hreviews, hverdict, hbrings.not_overtaxes hlimits⟩
    · exact .inr ⟨fault, hverdict, .inr ⟨text, hbrings, hlimits⟩⟩
  · refine .inl ⟨_, .kept ?_, review_of_fails hkey hfails source, ?_⟩
    · rintro verdict ⟨text, -, hbrings, -⟩
      exact hfails.brings_nothing text hbrings
    · rintro (hdeep | ⟨text, hbrings, -⟩)
      · exact hfails.not_tooDeep hdeep
      · exact hfails.brings_nothing text hbrings
  · obtain ⟨container, hresult⟩ := review_of_tooDeep hkey hdeep source
    exact .inr ⟨_, hresult, .inl hdeep⟩

theorem Reply.Corrects.not_overtaxes (h : reply.Corrects limits verdict) : ¬ reply.Overtaxes limits := by
  obtain ⟨text, fields, hbrings, hread, -⟩ := h
  exact hbrings.not_overtaxes (Json.not_beyondLimits hread)

/-- There is a review only with a key. -/
theorem key_of_review_eq_ok (h : (review limits settings source reply).result = .ok verdict) :
    settings.apiKey.isPresent = true := by
  cases hkey : settings.apiKey.isPresent with
  | true => rfl
  | false =>
      rw [review_of_noKey hkey] at h
      cases h

theorem review_eq_ok_iff (hkey : settings.apiKey.isPresent = true) :
    (review limits settings source reply).result = .ok verdict ↔
      reply.Reviews limits source verdict ∧ ¬ reply.Overtaxes limits := by
  rcases review_cases limits hkey reply source with
    ⟨answer, hreviews, hresult, hlimits⟩ | ⟨fault, hresult, hlimits⟩
  · rw [hresult, Except.ok.injEq]
    constructor
    · rintro rfl
      exact ⟨hreviews, hlimits⟩
    · rintro ⟨hverdict, -⟩
      exact hverdict.unique hreviews
  · simp [hresult, hlimits]

theorem review_fails_iff (hkey : settings.apiKey.isPresent = true) :
    (∃ fault, (review limits settings source reply).result = .error fault) ↔ reply.Overtaxes limits := by
  rcases review_cases limits hkey reply source with
    ⟨answer, hreviews, hresult, hlimits⟩ | ⟨fault, hresult, hlimits⟩
  · simp [hresult, hlimits]
  · simp [hresult, hlimits]

/-! ## Drafts -/

variable {description program : WideText} {console : Bool}

/-- There is a draft only with a key. -/
theorem key_of_draft_eq_ok (h : (draft limits settings description console reply).result = .ok program) :
    settings.apiKey.isPresent = true := by
  cases hkey : settings.apiKey.isPresent with
  | true => rfl
  | false =>
      rw [draft_of_noKey hkey] at h
      cases h

theorem draft_eq_ok_iff (hkey : settings.apiKey.isPresent = true) :
    (draft limits settings description console reply).result = .ok program ↔
      (∃ text, reply.Brings limits.reply text ∧ program = codeOf text) ∨
        reply.Fails limits.reply ∧ program = fallbackProgram := by
  rcases reply.cases limits.reply with ⟨text, hbrings⟩ | hfails | hdeep
  · have hnot : ¬ reply.Fails limits.reply := fun hfails => hfails.brings_nothing text hbrings
    rw [draft_of_brings hkey hbrings, Except.ok.injEq]
    constructor
    · rintro rfl
      exact .inl ⟨text, hbrings, rfl⟩
    · rintro (⟨other, hother, rfl⟩ | ⟨hfails, -⟩)
      · rw [hbrings.unique hother]
      · exact absurd hfails hnot
  · have hnothing : ¬ ∃ text, reply.Brings limits.reply text ∧ program = codeOf text :=
      fun ⟨text, hbrings, _⟩ => hfails.brings_nothing text hbrings
    simp [draft_of_fails hkey hfails, hfails, hnothing, eq_comm]
  · obtain ⟨container, hresult⟩ := draft_of_tooDeep description console hkey hdeep
    have hnothing : ¬ ∃ text, reply.Brings limits.reply text ∧ program = codeOf text :=
      fun ⟨text, hbrings, _⟩ => hbrings.not_tooDeep hdeep
    have hnot : ¬ reply.Fails limits.reply := fun hfails => hfails.not_tooDeep hdeep
    simp [hresult, hnothing, hnot]

theorem draft_fails_iff (hkey : settings.apiKey.isPresent = true) :
    (∃ fault, (draft limits settings description console reply).result = .error fault) ↔
      reply.TooDeep limits.reply := by
  rcases reply.cases limits.reply with ⟨text, hbrings⟩ | hfails | hdeep
  · simp [draft_of_brings hkey hbrings, hbrings.not_tooDeep]
  · simp [draft_of_fails hkey hfails, hfails.not_tooDeep]
  · obtain ⟨container, hresult⟩ := draft_of_tooDeep description console hkey hdeep
    simp [hresult, hdeep]

/-! ## Answers that say a given text -/

/-- An answer with one candidate, whose one part is a text. -/
def Reply.saying (text : String) : Reply :=
  let part := Json.writeObject [("text", Json.quote text)]
  let content := Json.writeObject [("parts", '[' :: (part ++ [']']))]
  let candidate := Json.writeObject [("content", content)]
  .answered 200 "OK" (String.ofList (Json.writeObject [("candidates", '[' :: (candidate ++ [']']))]))

/-- Any text can be brought, as long as there is one. -/
theorem Reply.brings_saying (nesting : Json.Nesting) {text : String} (h : text ≠ "") :
    (Reply.saying text).Brings nesting text := by
  have hbrace : '\x7b' ≠ ']' := by decide
  have hpart := Json.writes_field "text" (Json.writes_quote text)
  have hcontent := Json.writes_field "parts" (Json.writes_singleton hpart hbrace)
  have hcandidate := Json.writes_field "content" hcontent
  have hbody := Json.writes_field "candidates" (Json.writes_singleton hcandidate hbrace)
  refine ⟨200, "OK", _, _, rfl, by decide,
    hbody.read_ofList (Nat.lt_of_lt_of_le (by decide) nesting.enough) ?_, ?_⟩
  · rw [Json.writeObject, List.head?_cons]
    decide
  · let candidate : Json.Value :=
      .object [("content", .object [("parts", .array [.object [("text", .string text)]])])]
    have hparts : partsOf? candidate = some [.object [("text", .string text)]] := rfl
    have htext : textOf [candidate] = text := by
      simp [textOf, hparts, partText, Json.Value.get?, WideText.join]
    have hlist : present? (.object [("candidates", .array [candidate])]) "candidates" =
        some (.array [candidate]) := rfl
    show candidateText (.object [("candidates", .array [candidate])]) = .ok text
    simp only [candidateText, hlist, Option.getD_some, htext, WideText.plain.injEq, h, if_false]

/-! ## Both -/

/-- Without a key nothing is sent and both exchanges fail.  With one, each sends one post, and its result is
what the reply comes to: only a reply beyond the limits of the reader is left without an answer. -/
theorem answer_of_every_reply (limits : Json.Limits) (settings : Settings) (reply : Reply) :
    (settings.apiKey.isPresent = false →
      (∀ description console,
        draft limits settings description console reply = { result := .error .noKey }) ∧
        ∀ source, review limits settings source reply = { result := .error .noKey }) ∧
      (settings.apiKey.isPresent = true →
        (∀ description console,
          let report := draft limits settings description console reply
          (∃ post, report.posts = [post]) ∧
            (∀ program, report.result = .ok program ↔
              (∃ text, reply.Brings limits.reply text ∧ program = codeOf text) ∨
                reply.Fails limits.reply ∧ program = fallbackProgram) ∧
            ((∃ fault, report.result = .error fault) ↔ reply.TooDeep limits.reply)) ∧
          ∀ source,
            let report := review limits settings source reply
            (∃ post, report.posts = [post]) ∧
              (∀ verdict, report.result = .ok verdict ↔
                reply.Reviews limits source verdict ∧ ¬ reply.Overtaxes limits) ∧
              ((∃ fault, report.result = .error fault) ↔ reply.Overtaxes limits) ∧
              ∀ verdict, report.result = .ok verdict →
                Text.allBlank verdict.corrected.toList = true →
                  Text.allBlank source.toList = true) := by
  refine ⟨fun hkey => ⟨fun _ _ => draft_of_noKey hkey, fun _ => review_of_noKey hkey⟩,
    fun hkey => ⟨fun description console => ?_, fun source => ?_⟩⟩
  · exact ⟨exists_post_draft hkey description console, fun program => draft_eq_ok_iff hkey,
      draft_fails_iff hkey⟩
  · exact ⟨exists_post_review hkey source, fun verdict => review_eq_ok_iff hkey,
      review_fails_iff hkey, fun verdict hresult => ((review_eq_ok_iff hkey).1 hresult).1.allBlank⟩

/-- A text that is a correction answers a draft and a review in two ways. -/
theorem answer_of_every_reply_of_correction :
    let settings : Settings := { apiKey := .string "k" }
    let text := String.ofList (Json.writeObject [("correctedCode", Json.quote "int x;")])
    settings.apiKey.isPresent = true ∧
      (draft {} settings "a clock" true (Reply.saying text)).result = .ok text ∧
      (review {} settings "int y;" (Reply.saying text)).result = .ok ⟨"int x;", ""⟩ := by
  intro settings text
  have hkey : settings.apiKey.isPresent = true := by decide
  have hbrings : (Reply.saying text).Brings {} text := Reply.brings_saying {} (by decide)
  have hread : Json.read (Json.Limits.review {}) text = .ok (.object [("correctedCode", .string "int x;")]) :=
    (Json.writes_field "correctedCode" (Json.writes_quote "int x;")).read_ofList (by decide) (by decide)
  have hcorrects : (Reply.saying text).Corrects {} ⟨"int x;", ""⟩ :=
    ⟨text, _, hbrings, hread, rfl, by decide, rfl⟩
  have hlimits := hbrings.not_overtaxes (Json.not_beyondLimits hread)
  obtain ⟨hdraft, hreview⟩ := (answer_of_every_reply {} settings (Reply.saying text)).2 hkey
  refine ⟨hkey, ((hdraft "a clock" true).2.1 text).2 (.inl ⟨text, hbrings, by decide +kernel⟩), ?_⟩
  exact ((hreview "int y;").2.1 _).2 ⟨.corrected hcorrects, hlimits⟩

/-- An integer of too many digits is no object, and still the program under review is not kept; and brackets
without end leave a draft without its stand-in. -/
theorem review_stops_at_long_integer :
    let settings : Settings := { apiKey := .string "k" }
    let text := String.ofList (List.replicate 4301 '7')
    let brackets : Reply := .answered 200 "OK" (String.ofList (List.replicate 5000 '['))
    settings.apiKey.isPresent = true ∧
      (Reply.saying text).Brings {} text ∧ (∀ value, Json.read {} text ≠ .ok value) ∧
      (review {} settings "p" (Reply.saying text)).result ≠ .ok ⟨"p", failedAnalysis⟩ ∧
      (∀ other, ¬ brackets.Brings {} other) ∧
      (draft {} settings "p" true brackets).result ≠ .ok fallbackProgram := by
  intro settings text brackets
  have hkey : settings.apiKey.isPresent = true := by decide
  have hread : Json.read {} text = .error (.longInteger 4301) := by
    have hdigits : ∀ c ∈ List.replicate 4301 '7', c.isDigit = true := by
      intro c hc
      rw [(List.mem_replicate.1 hc).2]
      rfl
    have hlong : Json.digitLimit < (List.replicate 4301 '7').length := by
      rw [List.length_replicate]
      decide
    have hlength : (List.replicate 4301 '7').length = 4301 := List.length_replicate
    rw [← hlength]
    exact Json.read_digits {} hdigits (by simp) hlong
  have hne : text ≠ "" := by
    intro hempty
    have hlength : (String.ofList (List.replicate 4301 '7')).length = "".length :=
      congrArg String.length hempty
    rw [String.length_ofList, List.length_replicate] at hlength
    exact absurd hlength (by decide)
  have hbrings : (Reply.saying text).Brings {} text := Reply.brings_saying {} hne
  have hover : (Reply.saying text).Overtaxes {} := .inr ⟨text, hbrings, .inr ⟨4301, hread⟩⟩
  have hdeep : brackets.TooDeep (Json.Limits.reply {}) := by
    have hbrackets := Json.tooDeep_brackets (by decide : (Json.Nesting.depth {}) < 5000) []
    rw [List.append_nil] at hbrackets
    exact ⟨200, "OK", _, rfl, by decide, hbrackets⟩
  obtain ⟨fault, hreview⟩ := (review_fails_iff hkey).2 hover
  obtain ⟨container, hdraft⟩ := draft_of_tooDeep "p" true hkey hdeep
  refine ⟨hkey, hbrings, fun value hvalue => ?_, ?_, fun other hother => hother.not_tooDeep hdeep, ?_⟩
  · rw [hread] at hvalue
    cases hvalue
  · rw [hreview]
    nofun
  · rw [hdraft]
    nofun

end Drafting

end SelfBuild
