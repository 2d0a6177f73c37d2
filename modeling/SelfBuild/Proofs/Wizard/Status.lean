import SelfBuild.Proofs.Drafting.Fences
import SelfBuild.Proofs.Drafting.Verdict
import SelfBuild.Proofs.Options
import SelfBuild.Proofs.Settings
import SelfBuild.Proofs.Wizard.Results

/-!
# How posted forms are answered

A form whose options mean nothing is answered with 400 before anything is read or sent.  Any other form is
answered with 200, or with 503 where the settings or the service are of no help.  Six things are in the
way of an answer: a settings file that is not expected, one that the system refuses to look up, a reply or
a review that is nested too deeply, and a draft or a review that cannot be encoded.
-/

namespace SelfBuild

namespace Wizard

variable {form : Form} {host : Host} {route : Route} {fault : Fault}

/-! ## What is asked -/

/-- The options of a form mean something; each one that is missing has a default. -/
def Form.Coercible (form : Form) : Prop :=
  (Options.member? Architecture.all Architecture.word
      (form.value "architecture" Architecture.anyCpu.word)).isSome = true ∧
    (Options.member? OutputKind.all OutputKind.word
      (form.value "output_type" OutputKind.console.word)).isSome = true

instance (form : Form) : Decidable form.Coercible :=
  inferInstanceAs (Decidable (_ ∧ _))

/-- The form is one for which a route turns to the service. -/
def Route.Asks (route : Route) (form : Form) : Prop :=
  match route with
  | .convert => form.Coercible ∧ Text.allBlank form.input.toList = false
  | .validate => form.Coercible
  | .start | .build => False

/-- What goes wrong when a route turns to the service. -/
inductive Fails (form : Form) (host : Host) : Route → Fault → Prop
  | settings {route : Route} {fault : Settings.Fault} (hasks : route.Asks form)
      (hload : host.settings = .error fault) : Fails form host route (.settings fault)
  | service {settings : Settings} {options : Options} {fault : Drafting.Fault}
      (hasks : Route.convert.Asks form)
      (hcoerce : form.options.coerce host.limits.shown = .ok options)
      (hload : host.settings = .ok settings)
      (hdraft : (Drafting.draft host.limits settings form.input options.isConsole
        host.reply).result = .error fault) :
      Fails form host .convert (.service fault)
  | review {settings : Settings} {fault : Drafting.ReviewFault} (hasks : Route.validate.Asks form)
      (hload : host.settings = .ok settings)
      (hreview : (Drafting.review host.limits settings
        (form.value "source_code" Project.sampleProgram) host.reply).result = .error fault) :
      Fails form host .validate (.review fault)

/-- The service gives a text that no page can be sent with. -/
inductive Unsendable (form : Form) (host : Host) : Route → Prop
  | draft {settings : Settings} {options : Options} {source : WideText}
      (hasks : Route.convert.Asks form)
      (hcoerce : form.options.coerce host.limits.shown = .ok options)
      (hload : host.settings = .ok settings)
      (hdraft : (Drafting.draft host.limits settings form.input options.isConsole
        host.reply).result = .ok source)
      (hloose : ¬ source.IsPlain) : Unsendable form host .convert
  | verdict {settings : Settings} {verdict : Drafting.Review} (hasks : Route.validate.Asks form)
      (hload : host.settings = .ok settings)
      (hreview : (Drafting.review host.limits settings
        (form.value "source_code" Project.sampleProgram) host.reply).result = .ok verdict)
      (hloose : ¬ (verdict.corrected.IsPlain ∧ verdict.analysis.IsPlain)) :
      Unsendable form host .validate

/-- What leaves a route without an answer: a settings file that is not expected or cannot be looked up,
a reply that is nested too deeply, or one with such a text where a review should be, and a draft or a
review of which no page can be sent. -/
inductive Overtaxes (form : Form) (host : Host) : Route → Prop
  | settings {route : Route} {path : String} (hasks : route.Asks form)
      (hfile : Settings.file? none host.environment = some path)
      (hunexpected : Settings.Unexpected host.limits.settings host.disk host.home path) :
      Overtaxes form host route
  | path {route : Route} {path : String} (hasks : route.Asks form)
      (hfile : Settings.file? none host.environment = some path)
      (hunsearchable : Settings.Unsearchable host.disk host.home path) : Overtaxes form host route
  | reply {route : Route} {settings : Settings} (hasks : route.Asks form)
      (hload : host.settings = .ok settings) (hkey : settings.apiKey.isPresent = true)
      (hdeep : host.reply.TooDeep host.limits.reply) : Overtaxes form host route
  | review {settings : Settings} {text : WideText} (hasks : Route.validate.Asks form)
      (hload : host.settings = .ok settings) (hkey : settings.apiKey.isPresent = true)
      (hbrings : host.reply.Brings host.limits.reply text)
      (hdeep : Json.TooDeep host.limits.review text) : Overtaxes form host .validate
  | draft {settings : Settings} {text : WideText} (hasks : Route.convert.Asks form)
      (hload : host.settings = .ok settings) (hkey : settings.apiKey.isPresent = true)
      (hbrings : host.reply.Brings host.limits.reply text) (hloose : ¬ text.IsPlain) :
      Overtaxes form host .convert
  | verdict {settings : Settings} {verdict : Drafting.Review} (hasks : Route.validate.Asks form)
      (hload : host.settings = .ok settings) (hkey : settings.apiKey.isPresent = true)
      (hcorrects : host.reply.Corrects host.limits verdict)
      (hloose : ¬ (verdict.corrected.IsPlain ∧ verdict.analysis.IsPlain)) :
      Overtaxes form host .validate

theorem Form.coercible_iff (nesting : Json.Nesting) :
    form.Coercible ↔ ∃ options, form.options.coerce nesting = .ok options :=
  Options.exists_coerce_words_iff.symm

theorem Route.Asks.coercible (h : route.Asks form) : form.Coercible := by
  cases route with
  | start => exact h.elim
  | convert => exact h.1
  | validate => exact h
  | build => exact h.elim

/-! ## Options that mean nothing -/

theorem Form.exists_mismatch (h : ¬ form.Coercible) (nesting : Json.Nesting) :
    ∃ mismatch, form.options.coerce nesting = .error (.mismatch mismatch) := by
  cases hcoerce : form.options.coerce nesting with
  | error fault =>
      obtain ⟨mismatch, rfl⟩ := Form.exists_mismatch_of_coerce hcoerce
      exact ⟨mismatch, rfl⟩
  | ok options => exact absurd ((Form.coercible_iff nesting).2 ⟨options, hcoerce⟩) h

/-- The first page is not asked for by a form. -/
theorem of?_post_ne_start {path : String} (h : Route.of? "POST" path = some route) :
    route ≠ .start := by
  rintro rfl
  unfold Route.of? at h
  split at h
  · rename_i hmethod
    simp at hmethod
  all_goals cases h

/-- Nothing is read or sent for a form whose options mean nothing. -/
theorem answer_of_not_coercible (hroute : route ≠ .start) (h : ¬ form.Coercible) (host : Host) :
    ∃ input mismatch, route.answer form host = rejected form input (.mismatch mismatch) := by
  obtain ⟨mismatch, hcoerce⟩ := Form.exists_mismatch h host.limits.shown
  cases route with
  | start => exact absurd rfl hroute
  | convert => exact ⟨form.input, mismatch, by simp only [Route.answer, convert, hcoerce]⟩
  | validate => exact ⟨form.input, mismatch, by simp only [Route.answer, validate, hcoerce]⟩
  | build => exact ⟨"", mismatch, by simp only [Route.answer, build, hcoerce]⟩

/-! ## Faults -/

theorem isShown_settings (fault : Settings.Fault) :
    (Fault.settings fault).isShown = !(fault.isUnexpected || fault.isRefusal) := by
  cases fault with
  | unreadable fault => cases fault <;> simp [Fault.isShown, Settings.Fault.isUnexpected,
      Settings.Fault.isRefusal]
  | beyondLimits fault => simp [Fault.isShown, Settings.Fault.isUnexpected, Settings.Fault.isRefusal]
  | number fault => cases fault <;> rfl
  | _ => rfl

theorem isShown_service (fault : Drafting.Fault) :
    (Fault.service fault).isShown = !fault.isUnexpected := by
  cases fault <;> rfl

theorem isShown_review (fault : Drafting.ReviewFault) :
    (Fault.review fault).isShown = !fault.isUnexpected := by
  cases fault <;> rfl

theorem Fails.overtaxes (h : Fails form host route fault) (hshown : fault.isShown = false) :
    Overtaxes form host route := by
  cases h with
  | settings hasks hload =>
      rw [isShown_settings, Bool.not_eq_false', Bool.or_eq_true] at hshown
      rcases hshown with hunexpected | hrefusal
      · obtain ⟨path, hfile, hpath⟩ := Settings.load_unexpected_iff.1 ⟨_, hload, hunexpected⟩
        exact .settings hasks hfile hpath
      · obtain ⟨path, hfile, hpath⟩ := Settings.load_refusal_iff.1 ⟨_, hload, hrefusal⟩
        exact .path hasks hfile hpath
  | service hasks hcoerce hload hdraft =>
      rw [isShown_service, Bool.not_eq_false'] at hshown
      obtain ⟨hkey, hdeep⟩ := Drafting.draft_unexpected_iff.1 ⟨_, hdraft, hshown⟩
      exact .reply hasks hload hkey hdeep
  | review hasks hload hreview =>
      rw [isShown_review, Bool.not_eq_false'] at hshown
      obtain ⟨hkey, hdeep | ⟨text, hbrings, hdeep⟩⟩ :=
        Drafting.review_unexpected_iff.1 ⟨_, hreview, hshown⟩
      · exact .reply hasks hload hkey hdeep
      · exact .review hasks hload hkey hbrings hdeep

theorem exists_unshown_of_settings {fault : Settings.Fault} (hasks : route.Asks form)
    (hload : host.settings = .error fault)
    (hfault : fault.isUnexpected = true ∨ fault.isRefusal = true) :
    ∃ fault, Fails form host route fault ∧ fault.isShown = false := by
  refine ⟨_, .settings hasks hload, ?_⟩
  rw [isShown_settings, Bool.not_eq_false', Bool.or_eq_true]
  exact hfault

theorem exists_unshown_of_review {settings : Settings} (hasks : Route.validate.Asks form)
    (hload : host.settings = .ok settings) (hkey : settings.apiKey.isPresent = true)
    (hdeep : host.reply.TooDeep host.limits.reply ∨
      ∃ text, host.reply.Brings host.limits.reply text ∧ Json.TooDeep host.limits.review text) :
    ∃ fault, Fails form host .validate fault ∧ fault.isShown = false := by
  obtain ⟨fault, hfault, hunexpected⟩ := Drafting.review_unexpected_iff.2 ⟨hkey, hdeep⟩
  refine ⟨_, .review hasks hload hfault, ?_⟩
  rw [isShown_review, hunexpected]
  rfl

/-- Of all that the service gives, only what it brought itself can be more than plain. -/
theorem Unsendable.overtaxes (h : Unsendable form host route) : Overtaxes form host route := by
  cases h with
  | @draft settings options source hasks hcoerce hload hdraft hloose =>
      have hkey : settings.apiKey.isPresent = true :=
        Drafting.key_of_draft_eq_ok hdraft
      rcases (Drafting.draft_eq_ok_iff hkey).1 hdraft with ⟨text, hbrings, rfl⟩ | ⟨-, rfl⟩
      · rw [Drafting.isPlain_codeOf_iff] at hloose
        exact .draft hasks hload hkey hbrings hloose
      · exact absurd (WideText.isPlain_plain _) hloose
  | @verdict settings verdict hasks hload hreview hloose =>
      have hkey : settings.apiKey.isPresent = true :=
        Drafting.key_of_review_eq_ok hreview
      obtain ⟨hreviews, -⟩ := (Drafting.review_eq_ok_iff hkey).1 hreview
      cases hreviews with
      | corrected hcorrects => exact .verdict hasks hload hkey hcorrects hloose
      | kept hnothing =>
          exact absurd ⟨WideText.isPlain_plain _, WideText.isPlain_plain _⟩ hloose

/-- What overtaxes a route is a fault that no page shows, or a text that none can be sent with. -/
theorem Overtaxes.unshown_or_unsendable (h : Overtaxes form host route) :
    (∃ fault, Fails form host route fault ∧ fault.isShown = false) ∨ Unsendable form host route := by
  cases h with
  | settings hasks hfile hunexpected =>
      obtain ⟨fault, hload, hfault⟩ := Settings.load_unexpected_iff.2 ⟨_, hfile, hunexpected⟩
      exact .inl (exists_unshown_of_settings hasks hload (.inl hfault))
  | path hasks hfile hunsearchable =>
      obtain ⟨fault, hload, hfault⟩ := Settings.load_refusal_iff.2 ⟨_, hfile, hunsearchable⟩
      exact .inl (exists_unshown_of_settings hasks hload (.inr hfault))
  | reply hasks hload hkey hdeep =>
      cases route with
      | start => exact hasks.elim
      | build => exact hasks.elim
      | validate => exact .inl (exists_unshown_of_review hasks hload hkey (.inl hdeep))
      | convert =>
          obtain ⟨options, hcoerce⟩ := (Form.coercible_iff host.limits.shown).1 hasks.1
          obtain ⟨fault, hdraft, hunexpected⟩ := Drafting.draft_unexpected_iff.2 ⟨hkey, hdeep⟩
          refine .inl ⟨_, .service hasks hcoerce hload hdraft, ?_⟩
          rw [isShown_service, hunexpected]
          rfl
  | review hasks hload hkey hbrings hdeep =>
      exact .inl (exists_unshown_of_review hasks hload hkey (.inr ⟨_, hbrings, hdeep⟩))
  | draft hasks hload hkey hbrings hloose =>
      obtain ⟨options, hcoerce⟩ := (Form.coercible_iff host.limits.shown).1 hasks.1
      exact .inr (.draft hasks hcoerce hload (Drafting.draft_of_brings hkey hbrings)
        (mt Drafting.isPlain_codeOf_iff.1 hloose))
  | verdict hasks hload hkey hcorrects hloose =>
      exact .inr (.verdict hasks hload
        ((Drafting.review_eq_ok_iff hkey).2 ⟨.corrected hcorrects, hcorrects.not_overtaxes⟩) hloose)

/-! ## Answers -/

/-- Where something goes wrong, a page with 503 says so if the fault is one that is shown. -/
theorem result_of_fails (h : Fails form host route fault) :
    (fault.isShown = true →
        ∃ shown, (route.answer form host).result = .ok (.page 503 shown)) ∧
      (fault.isShown = false → (route.answer form host).result = .error fault) := by
  cases h with
  | settings hasks hload =>
      cases route with
      | start => exact hasks.elim
      | build => exact hasks.elim
      | convert =>
          obtain ⟨options, hcoerce⟩ := (Form.coercible_iff host.limits.shown).1 hasks.1
          simp only [Route.answer, convert, hcoerce, hasks.2, Bool.false_eq_true, if_false, hload]
          exact result_refuse _ _ _ _ _ _ _
      | validate =>
          obtain ⟨options, hcoerce⟩ := (Form.coercible_iff host.limits.shown).1 hasks
          simp only [Route.answer, validate, hcoerce, hload]
          exact result_refuse _ _ _ _ _ _ _
  | service hasks hcoerce hload hdraft =>
      simp only [Route.answer, convert, hcoerce, hasks.2, Bool.false_eq_true, if_false, hload, hdraft]
      exact result_refuse _ _ _ _ _ _ _
  | review hasks hload hreview =>
      obtain ⟨options, hcoerce⟩ := (Form.coercible_iff host.limits.shown).1 hasks
      have hsource : (host.enter "Validating syntax and security..." (form.buildWith options)).source =
          form.value "source_code" Project.sampleProgram := rfl
      simp only [Route.answer, validate, hcoerce, hload, hsource, hreview]
      exact result_refuse _ _ _ _ _ _ _

/-- A text that no page can be sent with ends the route. -/
theorem Unsendable.exists_fault (h : Unsendable form host route) :
    ∃ fault, (route.answer form host).result = .error (.encoding fault) := by
  cases h with
  | draft hasks hcoerce hload hdraft hloose =>
      obtain ⟨fault, hfault⟩ := Page.exists_showing_eq_error_iff _ |>.2 fun hplain => hloose hplain.1
      exact ⟨fault, (result_convert_of_draft hcoerce hasks.2 hload hdraft).trans hfault⟩
  | verdict hasks hload hreview hloose =>
      obtain ⟨options, hcoerce⟩ := (Form.coercible_iff host.limits.shown).1 hasks
      obtain ⟨fault, hfault⟩ := Page.exists_showing_eq_error_iff _ |>.2 fun hplain =>
        hloose ⟨hplain.1, (WideText.isPlain_plain_append_iff _ _).1 ((isPlain_stamp_iff host _).1 hplain.2)⟩
      exact ⟨fault, (result_validate_of_review hcoerce hload hreview).trans hfault⟩

theorem convert_fails_or_ok (h : form.Coercible) (host : Host) :
    (∃ fault, Fails form host .convert fault) ∨ Unsendable form host .convert ∨
      ∃ response, (convert form host).result = .ok response ∧ response.status = 200 := by
  obtain ⟨options, hcoerce⟩ := (Form.coercible_iff host.limits.shown).1 h
  cases hblank : Text.allBlank form.input.toList with
  | true => exact .inr (.inr ⟨_, result_convert_of_blank hcoerce hblank, rfl⟩)
  | false =>
      cases hload : host.settings with
      | error fault => exact .inl ⟨_, .settings ⟨h, hblank⟩ hload⟩
      | ok settings =>
          cases hdraft : (Drafting.draft host.limits settings form.input options.isConsole
              host.reply).result with
          | error fault => exact .inl ⟨_, .service ⟨h, hblank⟩ hcoerce hload hdraft⟩
          | ok source =>
              refine .inr ?_
              by_cases hplain : source.IsPlain
              · obtain ⟨source, rfl⟩ := hplain
                exact .inr ⟨_, (result_convert_of_draft hcoerce hblank hload hdraft).trans
                  (showing_stamp_plain host _ _ _), rfl⟩
              · exact .inl (.draft ⟨h, hblank⟩ hcoerce hload hdraft hplain)

theorem validate_fails_or_ok (h : form.Coercible) (host : Host) :
    (∃ fault, Fails form host .validate fault) ∨ Unsendable form host .validate ∨
      ∃ response, (validate form host).result = .ok response ∧ response.status = 200 := by
  obtain ⟨options, hcoerce⟩ := (Form.coercible_iff host.limits.shown).1 h
  cases hload : host.settings with
  | error fault => exact .inl ⟨_, .settings h hload⟩
  | ok settings =>
      cases hreview : (Drafting.review host.limits settings
          (form.value "source_code" Project.sampleProgram) host.reply).result with
      | error fault => exact .inl ⟨_, .review h hload hreview⟩
      | ok verdict =>
          refine .inr ?_
          have hresult := result_validate_of_review hcoerce hload hreview
          by_cases hplain : verdict.corrected.IsPlain ∧ verdict.analysis.IsPlain
          · obtain ⟨⟨corrected, hcorrected⟩, analysis, hanalysis⟩ := hplain
            rw [hcorrected, hanalysis, WideText.plain_append, showing_stamp_plain] at hresult
            exact .inr ⟨_, hresult, rfl⟩
          · exact .inl (.verdict h hload hreview hplain)

theorem exists_ok_of_build (h : form.Coercible) (host : Host) :
    ∃ response, (build form host).result = .ok response ∧ response.status = 200 := by
  obtain ⟨options, hcoerce⟩ := (Form.coercible_iff host.limits.shown).1 h
  have hresult := result_build hcoerce
  split at hresult
  · exact ⟨_, hresult, rfl⟩
  · exact ⟨_, hresult, rfl⟩

/-- Where nothing goes wrong, a form whose options mean something is answered with 200. -/
theorem fails_or_ok (hroute : route ≠ .start) (h : form.Coercible) (host : Host) :
    (∃ fault, Fails form host route fault) ∨ Unsendable form host route ∨
      ∃ response, (route.answer form host).result = .ok response ∧ response.status = 200 := by
  cases route with
  | start => exact absurd rfl hroute
  | convert => exact convert_fails_or_ok h host
  | validate => exact validate_fails_or_ok h host
  | build => exact .inr (.inr (exists_ok_of_build h host))

/-- Only a form whose options mean something can overtax a route. -/
theorem Overtaxes.coercible (h : Overtaxes form host route) : form.Coercible := by
  cases h with
  | settings hasks _ _ => exact hasks.coercible
  | path hasks _ _ => exact hasks.coercible
  | reply hasks _ _ _ => exact hasks.coercible
  | review hasks _ _ _ _ => exact hasks.coercible
  | draft hasks _ _ _ _ => exact hasks.coercible
  | verdict hasks _ _ _ _ => exact hasks.coercible

/-- Nothing is answered where a route is overtaxed. -/
theorem Overtaxes.result_ne_ok (h : Overtaxes form host route) (response : Response) :
    (route.answer form host).result ≠ .ok response := by
  rcases h.unshown_or_unsendable with ⟨fault, hfails, hunshown⟩ | hunsendable
  · rw [(result_of_fails hfails).2 hunshown]
    nofun
  · obtain ⟨fault, hfault⟩ := hunsendable.exists_fault
    rw [hfault]
    nofun

/-- Whether or not something goes wrong, a form whose options mean something is answered with 200 or 503
where it is answered at all. -/
theorem answered_iff (hroute : route ≠ .start) (h : form.Coercible) (host : Host) :
    ((∃ response, (route.answer form host).result = .ok response) ↔ ¬ Overtaxes form host route) ∧
      ∀ response, (route.answer form host).result = .ok response →
        response.status = 200 ∨ response.status = 503 := by
  have hcalm {response : Response} (hresult : (route.answer form host).result = .ok response) :
      ¬ Overtaxes form host route := fun hover => hover.result_ne_ok response hresult
  refine ⟨⟨fun ⟨_, hresult⟩ => hcalm hresult, fun hnot => ?_⟩, fun response hresult => ?_⟩
  · rcases fails_or_ok hroute h host with ⟨fault, hfails⟩ | hunsendable | ⟨response, hresult, -⟩
    · cases hshown : fault.isShown with
      | true =>
          obtain ⟨shown, hresult⟩ := (result_of_fails hfails).1 hshown
          exact ⟨_, hresult⟩
      | false => exact absurd (hfails.overtaxes hshown) hnot
    · exact absurd hunsendable.overtaxes hnot
    · exact ⟨response, hresult⟩
  · rcases fails_or_ok hroute h host with ⟨fault, hfails⟩ | hunsendable | ⟨other, hother, hstatus⟩
    · cases hshown : fault.isShown with
      | true =>
          obtain ⟨shown, hshow⟩ := (result_of_fails hfails).1 hshown
          obtain rfl := Except.ok.inj (hshow.symm.trans hresult)
          exact .inr rfl
      | false => exact absurd (hfails.overtaxes hshown) (hcalm hresult)
    · exact absurd hunsendable.overtaxes (hcalm hresult)
    · obtain rfl := Except.ok.inj (hother.symm.trans hresult)
      exact .inl hstatus

/-- A posted form is answered unless it overtaxes its route, and then with 200, 400 or 503; with 400
exactly when its options mean nothing, and nothing is sent then. -/
theorem status_of_posted {path : String} (hroute : Route.of? "POST" path = some route) (form : Form)
    (host : Host) :
    let answer := route.answer form host
    ((∃ response, answer.result = .ok response) ↔ ¬ Overtaxes form host route) ∧
      (∀ response, answer.result = .ok response → response.status ∈ [200, 400, 503]) ∧
      ((∃ response, answer.result = .ok response ∧ response.status = 400) ↔ ¬ form.Coercible) ∧
      (¬ form.Coercible → answer.posts = []) := by
  have hposted := of?_post_ne_start hroute
  dsimp only
  by_cases hcoercible : form.Coercible
  · obtain ⟨hanswered, hstatus⟩ := answered_iff hposted hcoercible host
    refine ⟨hanswered, ?_, ⟨?_, fun hnot => absurd hcoercible hnot⟩, fun hnot => absurd hcoercible hnot⟩
    · intro response hresult
      rcases hstatus response hresult with h | h <;> simp [h]
    · rintro ⟨response, hresult, hrejected⟩
      rcases hstatus response hresult with h | h <;> simp [h] at hrejected
  · obtain ⟨input, mismatch, hanswer⟩ := answer_of_not_coercible hposted hcoercible host
    have hcalm : ¬ Overtaxes form host route := fun hover => hcoercible hover.coercible
    rw [hanswer]
    simp [rejected, Answer.ofPage, hcoercible, hcalm, Response.status]

/-- An architecture that is none is answered with 400, whatever the settings are. -/
theorem status_of_posted_arm :
    let form : Form := [("architecture", "ARM")]
    let host : Host :=
      { disk := ⟨[], []⟩
        home := "/home"
        environment := [("EXEFORGE_CONFIG", "missing.json")]
        clock := "10:20:30"
        reply := .failed "offline" }
    Route.of? "POST" "/validate" = some .validate ∧ ¬ form.Coercible ∧
      (∃ response, (Route.validate.answer form host).result = .ok response ∧ response.status = 400) ∧
      (Route.validate.answer form host).posts = [] := by
  intro form host
  have hroute : Route.of? "POST" "/validate" = some .validate := rfl
  have hnot : ¬ form.Coercible := by decide +kernel
  obtain ⟨-, -, hrejected, hposts⟩ := status_of_posted hroute form host
  exact ⟨hroute, hnot, hrejected.2 hnot, hposts hnot⟩

/-- A settings file with a null for the waiting time leaves a posted form without an answer. -/
theorem no_answer_of_null_timeout :
    let form : Form := [("raw_input", "a clock")]
    let host : Host :=
      { disk := ⟨[(["home", "s.json"], .file (Text.Utf8.encode "\x7b\"timeout\":null\x7d")),
          (["home"], .folder)], ["home"]⟩
        home := "/home"
        environment := [("EXEFORGE_CONFIG", "s.json")]
        clock := "10:20:30"
        reply := .failed "offline" }
    Route.of? "POST" "/convert" = some .convert ∧
      ¬ ∃ response, (Route.convert.answer form host).result = .ok response := by
  intro form host
  have hcoercible : form.Coercible := by decide +kernel
  have hasks : Route.convert.Asks form := ⟨hcoercible, by decide +kernel⟩
  have htext : host.disk.readText (Path.ofString "s.json") = .ok "\x7b\"timeout\":null\x7d" :=
    Disk.readText_of_readBytes rfl (by decide)
  have hover : Overtaxes form host .convert := .settings hasks rfl (Settings.unexpected_of_null_timeout htext)
  exact ⟨rfl, fun ⟨response, hresult⟩ => hover.result_ne_ok response hresult⟩

end Wizard

end SelfBuild
