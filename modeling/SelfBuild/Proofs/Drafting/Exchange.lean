import SelfBuild.Drafting.Exchange
import SelfBuild.Proofs.Settings

/-!
# What comes of an exchange

A reply of the service brings a text, or it is nested too deeply to be read, or it fails: the post got
lost, the status is an error, the body is no JSON, or there is no text in it.  With a key, what an exchange
comes to depends on which of the three it is.  A draft fails only with a reply that is nested too deeply;
every other failure is answered by a program that stands in for the draft.
-/

namespace SelfBuild

namespace Drafting

variable {nesting : Json.Nesting} {limits : Json.Limits} {settings : Settings} {reply : Reply}
variable {url text : WideText}

/-- An answer brings a text among its candidates. -/
def Reply.Brings (nesting : Json.Nesting) (reply : Reply) (text : WideText) : Prop :=
  ∃ status reason body value, reply = .answered status reason body ∧
    ¬ (400 ≤ status ∧ status < 600) ∧ Json.read nesting body = .ok value ∧ candidateText value = .ok text

/-- An answer is nested too deeply to be read. -/
def Reply.TooDeep (nesting : Json.Nesting) (reply : Reply) : Prop :=
  ∃ status reason body, reply = .answered status reason body ∧
    ¬ (400 ≤ status ∧ status < 600) ∧ Json.TooDeep nesting body

/-- There is no text in a reply, and the reader did not give up on it either. -/
structure Reply.Fails (nesting : Json.Nesting) (reply : Reply) : Prop where
  brings_nothing : ∀ text, ¬ reply.Brings nesting text
  not_tooDeep : ¬ reply.TooDeep nesting

theorem Reply.cases (nesting : Json.Nesting) (reply : Reply) :
    (∃ text, reply.Brings nesting text) ∨ reply.Fails nesting ∨ reply.TooDeep nesting := by
  by_cases hbrings : ∃ text, reply.Brings nesting text
  · exact .inl hbrings
  · by_cases hdeep : reply.TooDeep nesting
    · exact .inr (.inr hdeep)
    · exact .inr (.inl ⟨not_exists.1 hbrings, hdeep⟩)

theorem statusFault?_eq_none_iff {status : Int} {reason url : String} :
    statusFault? status reason url = none ↔ ¬ (400 ≤ status ∧ status < 600) := by
  unfold statusFault?
  simp only [Bool.and_eq_true, decide_eq_true_eq]
  split
  · simp only [reduceCtorEq, false_iff]
    omega
  · split
    · simp only [reduceCtorEq, false_iff]
      omega
    · simp only [true_iff]
      omega

/-- The parts of an answer are never a reason to give up reading. -/
theorem candidateText_ne_beyondLimits (value : Json.Value) (fault : Json.Fault) :
    candidateText value ≠ .error (.beyondLimits fault) := by
  unfold candidateText
  split
  · split
    · dsimp only
      split <;> nofun
    · nofun
  · nofun

theorem Reply.text_eq_ok_iff : reply.text nesting url = .ok text ↔ reply.Brings nesting text := by
  constructor
  · intro h
    cases reply with
    | failed reason => cases h
    | answered status reason body =>
        unfold Reply.text at h
        dsimp only at h
        split at h
        · cases h
        · rename_i hstatus
          split at h
          · rename_i value hvalue
            exact ⟨_, _, _, value, rfl, statusFault?_eq_none_iff.1 hstatus, hvalue, h⟩
          · split at h <;> cases h
  · rintro ⟨status, reason, body, value, rfl, hstatus, hvalue, htext⟩
    simp only [Reply.text, statusFault?_eq_none_iff.2 hstatus, hvalue, htext]

instance (reply : Reply) (text : WideText) : Decidable (reply.Brings nesting text) :=
  match h : reply.text nesting "" with
  | .ok other =>
      if hother : other = text then isTrue (Reply.text_eq_ok_iff.1 (hother ▸ h))
      else isFalse fun hbrings =>
        hother (Except.ok.inj (h.symm.trans (Reply.text_eq_ok_iff.2 hbrings)))
  | .error _ => isFalse fun hbrings => nomatch h.symm.trans (Reply.text_eq_ok_iff.2 hbrings)

/-- The only reason to give up on a reply is that it is nested too deeply. -/
theorem Reply.tooDeep_of_text_eq {fault : Json.Fault}
    (h : reply.text nesting url = .error (.beyondLimits fault)) : reply.TooDeep nesting := by
  cases reply with
  | failed reason => cases h
  | answered status reason body =>
      unfold Reply.text at h
      dsimp only at h
      split at h
      · cases h
      · rename_i hstatus
        split at h
        · exact absurd h (candidateText_ne_beyondLimits _ _)
        · rename_i stop hstop
          split at h
          · rename_i hexhaustion
            obtain ⟨container, rfl⟩ := Json.isExhaustion_iff.1 hexhaustion
            exact ⟨_, _, _, rfl, statusFault?_eq_none_iff.1 hstatus, container, hstop⟩
          · cases h

theorem Reply.TooDeep.exists_container (h : reply.TooDeep nesting) (url : WideText) :
    ∃ container, reply.text nesting url = .error (.beyondLimits (.tooDeep container)) := by
  obtain ⟨status, reason, body, rfl, hstatus, container, hread⟩ := h
  refine ⟨container, ?_⟩
  simp only [Reply.text, statusFault?_eq_none_iff.2 hstatus, hread]
  rfl

theorem Reply.Brings.unique {other : WideText} (h : reply.Brings nesting text)
    (hother : reply.Brings nesting other) :
    other = text := by
  have htext : reply.text nesting "" = .ok text := Reply.text_eq_ok_iff.2 h
  rw [Reply.text_eq_ok_iff.2 hother] at htext
  exact Except.ok.inj htext

theorem Reply.Brings.not_tooDeep (h : reply.Brings nesting text) : ¬ reply.TooDeep nesting := by
  intro hdeep
  obtain ⟨container, hread⟩ := hdeep.exists_container ""
  rw [Reply.text_eq_ok_iff.2 h] at hread
  cases hread

/-- A failed reply is a fault, and one from which the reader got as far as it wanted. -/
theorem Reply.Fails.exists_fault (h : reply.Fails nesting) (url : WideText) :
    ∃ fault, reply.text nesting url = .error fault ∧ ∀ limit, fault ≠ .beyondLimits limit := by
  cases hread : reply.text nesting url with
  | ok text => exact absurd (Reply.text_eq_ok_iff.1 hread) (h.brings_nothing text)
  | error fault =>
      refine ⟨fault, rfl, ?_⟩
      rintro limit rfl
      exact h.not_tooDeep (Reply.tooDeep_of_text_eq hread)

/-! ## Drafts -/

/-- Whether a fault is that the reader has given up. -/
def Fault.isUnexpected : Fault → Bool
  | .beyondLimits fault => fault.isExhaustion
  | _ => false

variable {description : WideText} {console : Bool}

theorem generate_result (hkey : settings.apiKey.isPresent = true) (prompt : WideText)
    (prompting : Prompting) :
    (generate limits settings prompt prompting reply).result =
      reply.text limits.reply (Drafting.url settings) := by
  simp only [generate, hkey, if_true]

theorem generate_posts_url (prompt : WideText) (prompting : Prompting) :
    (generate limits settings prompt prompting reply).posts.map Post.url =
      if settings.apiKey.isPresent then [Drafting.url settings] else [] := by
  unfold generate
  split <;> rfl

theorem draft_of_noKey (hkey : settings.apiKey.isPresent = false) :
    draft limits settings description console reply = { result := .error .noKey } := by
  simp only [draft, hkey, Bool.false_eq_true, if_false]

theorem draft_of_brings (hkey : settings.apiKey.isPresent = true) (h : reply.Brings limits.reply text) :
    (draft limits settings description console reply).result =
      .ok (codeOf text) := by
  have htext : reply.text limits.reply (Drafting.url settings) = .ok text := Reply.text_eq_ok_iff.2 h
  simp only [draft, hkey, if_true, generate_result hkey, htext]

theorem draft_of_fails (hkey : settings.apiKey.isPresent = true) (h : reply.Fails limits.reply) :
    (draft limits settings description console reply).result = .ok fallbackProgram := by
  obtain ⟨fault, hfault, hlimit⟩ := h.exists_fault (Drafting.url settings)
  simp only [draft, hkey, if_true, generate_result hkey, hfault]

theorem draft_of_tooDeep (description : WideText) (console : Bool)
    (hkey : settings.apiKey.isPresent = true) (h : reply.TooDeep limits.reply) :
    ∃ container, (draft limits settings description console reply).result =
      .error (.beyondLimits (.tooDeep container)) := by
  obtain ⟨container, hread⟩ := h.exists_container (Drafting.url settings)
  refine ⟨container, ?_⟩
  simp only [draft, hkey, if_true, generate_result hkey, hread]

/-- A draft ends unexpectedly exactly when the service is asked and its reply is nested too deeply. -/
theorem draft_unexpected_iff :
    (∃ fault, (draft limits settings description console reply).result = .error fault ∧
        fault.isUnexpected = true) ↔
      settings.apiKey.isPresent = true ∧ reply.TooDeep limits.reply := by
  cases hkey : settings.apiKey.isPresent with
  | false => simp [draft_of_noKey hkey, Fault.isUnexpected]
  | true =>
      simp only [true_and]
      rcases reply.cases limits.reply with ⟨text, hbrings⟩ | hfails | hdeep
      · simp [draft_of_brings hkey hbrings, hbrings.not_tooDeep]
      · simp [draft_of_fails hkey hfails, hfails.not_tooDeep]
      · obtain ⟨container, hresult⟩ := draft_of_tooDeep description console hkey hdeep
        simp [hresult, hdeep, Fault.isUnexpected, Json.Fault.isExhaustion]

/-! ## Reviews -/

def ReviewFault.isUnexpected : ReviewFault → Bool
  | .noKey => false
  | .beyondLimits fault => fault.isExhaustion

variable {source : WideText}

theorem review_of_fails (hkey : settings.apiKey.isPresent = true) (h : reply.Fails limits.reply)
    (source : WideText) :
    (review limits settings source reply).result = .ok ⟨source, failedAnalysis⟩ := by
  obtain ⟨fault, hfault, hlimit⟩ := h.exists_fault (Drafting.url settings)
  simp only [review, hkey, if_true, generate_result hkey, hfault]

theorem review_of_tooDeep (hkey : settings.apiKey.isPresent = true) (h : reply.TooDeep limits.reply)
    (source : WideText) :
    ∃ container, (review limits settings source reply).result =
      .error (.beyondLimits (.tooDeep container)) := by
  obtain ⟨container, hread⟩ := h.exists_container (Drafting.url settings)
  refine ⟨container, ?_⟩
  simp only [review, hkey, if_true, generate_result hkey, hread]

/-- A text that was brought is given up on exactly when it is nested too deeply. -/
theorem review_unexpected_iff_of_brings (hkey : settings.apiKey.isPresent = true)
    (h : reply.Brings limits.reply text) :
    (∃ fault, (review limits settings source reply).result = .error fault ∧ fault.isUnexpected = true) ↔
      Json.TooDeep limits.review text := by
  have htext : reply.text limits.reply (Drafting.url settings) = .ok text := Reply.text_eq_ok_iff.2 h
  simp only [review, hkey, if_true, generate_result hkey, htext, Json.tooDeep_iff]
  cases Json.read limits.review text with
  | ok value => cases hcode : correction? value <;> simp [hcode]
  | error fault =>
      cases fault <;> simp [ReviewFault.isUnexpected, Json.Fault.isSyntax, Json.Fault.isExhaustion]

/-- A review ends unexpectedly exactly when the service is asked and either its reply or the text in it
is nested too deeply. -/
theorem review_unexpected_iff :
    (∃ fault, (review limits settings source reply).result = .error fault ∧ fault.isUnexpected = true) ↔
      settings.apiKey.isPresent = true ∧
        (reply.TooDeep limits.reply ∨
          ∃ text, reply.Brings limits.reply text ∧ Json.TooDeep limits.review text) := by
  cases hkey : settings.apiKey.isPresent with
  | false => simp [review, hkey, ReviewFault.isUnexpected]
  | true =>
      simp only [true_and]
      rcases reply.cases limits.reply with ⟨text, hbrings⟩ | hfails | hdeep
      · rw [review_unexpected_iff_of_brings hkey hbrings, or_iff_right hbrings.not_tooDeep]
        exact ⟨fun htext => ⟨text, hbrings, htext⟩,
          fun ⟨other, hother, hdeep⟩ => hbrings.unique hother ▸ hdeep⟩
      · have hnothing : ¬ ∃ text, reply.Brings limits.reply text ∧ Json.TooDeep limits.review text :=
          fun ⟨text, hbrings, _⟩ => hfails.brings_nothing text hbrings
        simp [review_of_fails hkey hfails, hfails.not_tooDeep, hnothing]
      · obtain ⟨container, hresult⟩ := review_of_tooDeep hkey hdeep source
        simp [hresult, hdeep, ReviewFault.isUnexpected, Json.Fault.isExhaustion]

end Drafting

end SelfBuild
