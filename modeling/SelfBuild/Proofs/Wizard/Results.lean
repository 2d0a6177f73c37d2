import SelfBuild.Proofs.Options
import SelfBuild.Proofs.Preamble.Findings
import SelfBuild.Proofs.Wizard.Markup
import SelfBuild.Wizard.Answer

/-!
# What the routes come to

For a form whose options mean something, each route's result in each of its cases: a build is shown or
handed over and never found unsound, a draft or a review takes the source's place if the page can be sent
with it, and a fault is shown below an entry that says what failed, or ends the route.
-/

namespace SelfBuild

namespace Wizard

variable {form : Form} {host : Host} {options : Options}

/-! ## Sending pages -/

namespace Page

@[simp] theorem isPlain_markupLines (lines : List String) : (markupLines lines).IsPlain := trivial

@[simp] theorem isPlain_boxField (label name : String) (checked : Bool) :
    (boxField label name checked).IsPlain := trivial

@[simp] theorem isPlain_top : top.IsPlain := trivial

@[simp] theorem isPlain_reviewPiece : reviewPiece.IsPlain := trivial

theorem allPlain_projectPieces (project : Project) : AllPlain (projectPieces project) := by
  simp [projectPieces, textField]

theorem allPlain_optionsPieces (options : Options) : AllPlain (optionsPieces options) := by
  simp [optionsPieces, choiceField, choice]

theorem allPlain_errorPieces (error : String) : AllPlain (errorPieces error) := by
  unfold errorPieces
  split <;> simp

theorem allPlain_previewPieces (preview : String) : AllPlain (previewPieces preview) := by
  unfold previewPieces
  split <;> simp

theorem allPlain_logPieces_iff (log : List WideText) :
    AllPlain (logPieces log) ↔ ∀ line ∈ log, line.IsPlain := by
  unfold logPieces
  split
  · simp [*]
  · simp

/-- A page can be sent exactly if the texts in the places of its source and its log are plain. -/
theorem isPlain_piecesWith_iff (page : Page) (source : WideText) (log : List WideText) :
    (wideText (page.piecesWith source log)).IsPlain ↔ source.IsPlain ∧ ∀ line ∈ log, line.IsPlain := by
  rw [isPlain_wideText_iff]
  simp [piecesWith, formPieces, codePieces, logField, notePieces, allPlain_projectPieces,
    allPlain_optionsPieces, allPlain_errorPieces, allPlain_previewPieces, allPlain_logPieces_iff]

end Page

/-- An entry of a log, with the time in front. -/
def Host.stamped (host : Host) (message : String) : String :=
  s!"[{host.clock}] {message}"

theorem stamp_plain (host : Host) (message : String) :
    host.stamp message = WideText.plain (host.stamped message) := by
  simp [Host.stamp, Host.stamped, toString, String.append_assoc]

theorem isPlain_stamp_iff (host : Host) (message : WideText) :
    (host.stamp message).IsPlain ↔ message.IsPlain :=
  WideText.isPlain_plain_append_iff _ _

namespace Page

variable {source entry : WideText}

theorem isPlain_logWith_iff (page : Page) :
    (wideText (page.piecesWith source (page.logWith entry))).IsPlain ↔
      source.IsPlain ∧ entry.IsPlain := by
  rw [isPlain_piecesWith_iff, logWith, List.forall_mem_append, List.forall_mem_singleton,
    List.forall_mem_map]
  simp

theorem map_seen_logWith (page : Page) (entry : String) :
    (page.logWith entry).map WideText.seen = page.build.log ++ [entry] := by
  rw [logWith, List.map_append, List.map_map]
  exact congrArg (· ++ _) (List.map_id page.build.log)

/-- A plain source takes the place of the page's own, below one more entry. -/
theorem showing_plain (page : Page) (source entry : String) :
    page.showing source entry =
      .ok (.page 200
        { page with build := { page.build with source := source, log := page.build.log ++ [entry] } }) := by
  obtain ⟨text, htext⟩ := page.isPlain_logWith_iff.2
    ⟨WideText.isPlain_plain source, WideText.isPlain_plain entry⟩
  rw [showing, WideText.toPlain_eq_ok_iff.2 htext, map_seen_logWith]
  rfl

/-- A text that is not plain leaves nothing that could be sent. -/
theorem exists_showing_eq_error_iff (page : Page) :
    (∃ fault, page.showing source entry = .error (.encoding fault)) ↔
      ¬ (source.IsPlain ∧ entry.IsPlain) := by
  constructor
  · rintro ⟨fault, hfault⟩ ⟨⟨s, rfl⟩, e, rfl⟩
    rw [showing_plain] at hfault
    cases hfault
  · rw [← page.isPlain_logWith_iff]
    intro h
    obtain ⟨fault, hfault⟩ := WideText.exists_toPlain_eq_error_iff.2 h
    refine ⟨fault, ?_⟩
    rw [showing, hfault]
    rfl

end Page

theorem showing_stamp_plain (host : Host) (page : Page) (source message : String) :
    page.showing source (host.stamp message) =
      .ok (.page 200
        { page with build := host.enter message { page.build with source := source } }) := by
  rw [stamp_plain, Page.showing_plain]
  rfl

/-- What is shown is plain. -/
theorem showing_eq_ok {page : Page} {source message : WideText} {response : Response}
    (h : page.showing source (host.stamp message) = .ok response) :
    ∃ shown entry : String, source = shown ∧ message = entry ∧
      response = .page 200
        { page with build := host.enter entry { page.build with source := shown } } := by
  by_cases hplain : source.IsPlain ∧ message.IsPlain
  · obtain ⟨⟨shown, rfl⟩, entry, rfl⟩ := hplain
    rw [showing_stamp_plain, Except.ok.injEq] at h
    exact ⟨shown, entry, rfl, rfl, h.symm⟩
  · rw [← isPlain_stamp_iff host message] at hplain
    obtain ⟨fault, hfault⟩ := page.exists_showing_eq_error_iff.2 hplain
    rw [hfault] at h
    cases h

/-! ## Drafts and reviews -/

/-- What is wrong with the options of a form is one of its two words. -/
theorem Form.exists_mismatch_of_coerce {nesting : Json.Nesting} {fault : Options.Fault}
    (h : form.options.coerce nesting = .error fault) : ∃ mismatch, fault = .mismatch mismatch :=
  Options.exists_mismatch_of_words h

theorem result_refuse (host : Host) (action entry : String) (page : Page) (fault : Fault)
    (posts : List Drafting.Post) (log : List Log.Line) :
    (fault.isShown = true →
        ∃ shown, (host.refuse action entry page fault posts log).result = .ok (.page 503 shown)) ∧
      (fault.isShown = false →
        (host.refuse action entry page fault posts log).result = .error fault) := by
  unfold Host.refuse
  cases fault.isShown <;> simp

/-- A refusal that is answered shows what failed, below one more entry. -/
theorem refuse_eq_ok {action entry : String} {page : Page} {fault : Fault}
    {posts : List Drafting.Post} {log : List Log.Line} {response : Response}
    (h : (host.refuse action entry page fault posts log).result = .ok response) :
    response =
      .page 503 { page with build := host.enter entry page.build, error := fault.message } := by
  unfold Host.refuse at h
  split at h
  · exact (Except.ok.inj h).symm
  · cases h

/-- The build that a page shows once a source has been drafted for the one that was sent. -/
def Host.drafted (host : Host) (build : Build) (source : String) : Build :=
  host.enter "Code transpiled successfully."
    { host.enter "Sending request to Gemini AI..." build with source := source }

/-- The page that a draft or a review is shown on. -/
def Host.sending (host : Host) (form : Form) (options : Options) (message : String) : Page where
  build := host.enter message (form.buildWith options)
  input := form.input

theorem result_convert_of_blank (hcoerce : form.options.coerce host.limits.shown = .ok options)
    (hblank : Text.allBlank form.input.toList = true) :
    (convert form host).result =
      .ok (.page 200 { build := form.buildWith options, input := form.input }) := by
  simp only [convert, hcoerce, hblank, if_true, Answer.ofPage]

theorem result_convert_of_draft {options : Options} {settings : Settings} {source : WideText}
    (hcoerce : form.options.coerce host.limits.shown = .ok options)
    (hblank : Text.allBlank form.input.toList = false) (hload : host.settings = .ok settings)
    (hdraft : (Drafting.draft host.limits settings form.input options.isConsole host.reply).result =
      .ok source) :
    (convert form host).result =
      (host.sending form options "Sending request to Gemini AI...").showing source
        (host.stamp "Code transpiled successfully.") := by
  simp only [convert, hcoerce, hblank, Bool.false_eq_true, if_false, hload, hdraft, Host.sending]

/-- The source that the service drafts for a build, where it does. -/
def Host.draft? (host : Host) (build : Build) (input : String) : Option WideText := do
  let settings ← host.settings.toOption
  (Drafting.draft host.limits settings input build.options.isConsole host.reply).result.toOption

def Host.review? (host : Host) (build : Build) : Option Drafting.Review := do
  let settings ← host.settings.toOption
  (Drafting.review host.limits settings build.source host.reply).result.toOption

/-- The build that a page shows once its source has been reviewed. -/
def Host.reviewed (host : Host) (build : Build) (corrected analysis : String) : Build :=
  host.enter ("Validation finished: " ++ analysis)
    { host.enter "Validating syntax and security..." build with source := corrected }

theorem result_validate_of_review {options : Options} {settings : Settings} {review : Drafting.Review}
    (hcoerce : form.options.coerce host.limits.shown = .ok options)
    (hload : host.settings = .ok settings)
    (hreview : (Drafting.review host.limits settings (form.buildWith options).source
      host.reply).result = .ok review) :
    (validate form host).result =
      (host.sending form options "Validating syntax and security...").showing review.corrected
        (host.stamp (.plain "Validation finished: " ++ review.analysis)) := by
  have hsource : (host.enter "Validating syntax and security..." (form.buildWith options)).source =
      (form.buildWith options).source := rfl
  simp only [validate, hcoerce, hload, hsource, hreview, Host.sending]

/-- What a conversion that is answered can come to. -/
theorem convert_cases {response : Response}
    (hcoerce : form.options.coerce host.limits.shown = .ok options)
    (h : (convert form host).result = .ok response) :
    Text.allBlank form.input.toList = true ∧
        response = .page 200 { build := form.buildWith options, input := form.input } ∨
      Text.allBlank form.input.toList = false ∧
        ((∃ source : String, host.draft? (form.buildWith options) form.input = some ↑source ∧
            response = .page 200
              { build := host.drafted (form.buildWith options) source, input := form.input }) ∨
          host.draft? (form.buildWith options) form.input = none ∧
            ∃ error, response = .page 503
              { build := host.enter "Transpilation failed."
                  (host.enter "Sending request to Gemini AI..." (form.buildWith options))
                input := form.input
                error := error }) := by
  cases hblank : Text.allBlank form.input.toList with
  | true =>
      rw [result_convert_of_blank hcoerce hblank, Except.ok.injEq] at h
      exact .inl ⟨rfl, h.symm⟩
  | false =>
      refine .inr ⟨rfl, ?_⟩
      have hconsole : (form.buildWith options).options = options := rfl
      cases hload : host.settings with
      | error fault =>
          simp only [convert, hcoerce, hblank, Bool.false_eq_true, if_false, hload] at h
          refine .inr ⟨?_, _, refuse_eq_ok h⟩
          simp [Host.draft?, hload, Except.toOption]
      | ok settings =>
          cases hdraft : (Drafting.draft host.limits settings form.input options.isConsole
              host.reply).result with
          | error fault =>
              simp only [convert, hcoerce, hblank, Bool.false_eq_true, if_false, hload, hdraft] at h
              refine .inr ⟨?_, _, refuse_eq_ok h⟩
              simp [Host.draft?, hload, hconsole, hdraft, Except.toOption]
          | ok source =>
              rw [result_convert_of_draft hcoerce hblank hload hdraft] at h
              obtain ⟨shown, entry, rfl, hentry, hresponse⟩ := showing_eq_ok h
              obtain rfl := WideText.plain.inj hentry
              refine .inl ⟨shown, ?_, hresponse⟩
              simp [Host.draft?, hload, hconsole, hdraft, Except.toOption]

/-- What a validation that is answered can come to. -/
theorem validate_cases {response : Response}
    (hcoerce : form.options.coerce host.limits.shown = .ok options)
    (h : (validate form host).result = .ok response) :
    (∃ corrected analysis : String,
        host.review? (form.buildWith options) = some ⟨corrected, analysis⟩ ∧
          response = .page 200
            { build := host.reviewed (form.buildWith options) corrected analysis
              input := form.input }) ∨
      host.review? (form.buildWith options) = none ∧
        ∃ error, response = .page 503
          { build := host.enter "Validation failed."
              (host.enter "Validating syntax and security..." (form.buildWith options))
            input := form.input
            error := error } := by
  have hsource : (host.enter "Validating syntax and security..." (form.buildWith options)).source =
      (form.buildWith options).source := rfl
  cases hload : host.settings with
  | error fault =>
      simp only [validate, hcoerce, hload] at h
      refine .inr ⟨?_, _, refuse_eq_ok h⟩
      simp [Host.review?, hload, Except.toOption]
  | ok settings =>
      cases hreview : (Drafting.review host.limits settings (form.buildWith options).source
          host.reply).result with
      | error fault =>
          simp only [validate, hcoerce, hload, hsource, hreview] at h
          refine .inr ⟨?_, _, refuse_eq_ok h⟩
          simp [Host.review?, hload, hreview, Except.toOption]
      | ok review =>
          rw [result_validate_of_review hcoerce hload hreview] at h
          obtain ⟨corrected, entry, hcorrected, hentry, hresponse⟩ := showing_eq_ok h
          obtain ⟨analysis, hanalysis⟩ : review.analysis.IsPlain :=
            (WideText.isPlain_plain_append_iff _ _).1 ⟨entry, hentry⟩
          rw [hanalysis, WideText.plain_append] at hentry
          obtain rfl := WideText.plain.inj hentry
          refine .inl ⟨corrected, analysis, ?_, hresponse⟩
          simp [Host.review?, hload, hreview, Except.toOption, ← hcorrected, ← hanalysis]

/-! ## Builds -/

/-- The page that shows an artifact before it is handed over. -/
def Host.previewed (host : Host) (build : Build) : Page where
  build := host.enter "Build artifact ready (preview)."
    (host.enter "Initialising build sequence..." build)
  notes := build.remarks.map Note.ofRemark
  preview := build.artifact

/-- An artifact is shown or handed over, since its preamble is never found wanting. -/
theorem result_build (hcoerce : form.options.coerce host.limits.shown = .ok options) :
    (build form host).result =
      if form.value "action" "" = "preview" then
        .ok (.page 200 (host.previewed (form.buildWith options)))
      else
        .ok (.download (FileName.download form.project none) (form.buildWith options).artifact) := by
  have hclean : Lint.artifact? (host.enter "Initialising build sequence..."
      (form.buildWith options)).artifact.toList = some [] := Artifact.artifact?_compose _ _ _
  unfold build
  simp only [hcoerce, hclean, Option.getD_some]
  by_cases hpreview : form.value "action" "" = "preview"
  · rw [if_pos hpreview, if_pos hpreview]
    rfl
  · rw [if_neg hpreview, if_neg hpreview]
    rfl

/-- A download has the name that its project suggests. -/
theorem disposition?_build {response : Response} {header : String}
    (hresult : (build form host).result = .ok response)
    (hheader : response.disposition? = some header) :
    header = "attachment; filename=\"" ++ FileName.download form.project none ++ "\"" := by
  cases hcoerce : form.options.coerce host.limits.shown with
  | error fault =>
      obtain ⟨mismatch, rfl⟩ := Form.exists_mismatch_of_coerce hcoerce
      simp only [build, hcoerce, rejected, Answer.ofPage, Except.ok.injEq] at hresult
      subst hresult
      cases hheader
  | ok options =>
      rw [result_build hcoerce] at hresult
      split at hresult
      · cases hresult
        cases hheader
      · cases hresult
        exact (Option.some.inj hheader).symm

/-! ## Pages -/

/-- How a route goes on from a build: with more entries in its log, and with another source. -/
inductive Continues (build : Build) : Build → Prop
  | same : Continues build build
  | enter {later : Build} (host : Host) (message : String) (h : Continues build later) :
      Continues build (host.enter message later)
  | withSource {later : Build} (source : String) (h : Continues build later) :
      Continues build { later with source := source }

theorem Continues.project_eq {build later : Build} (h : Continues build later) :
    later.project = build.project := by
  induction h with
  | same => rfl
  | enter _ _ _ ih => exact ih
  | withSource _ _ ih => exact ih

/-- A page goes on from the build of the form that was posted, and shows what was typed unless the form
asked for a build. -/
theorem page_of_posted {route : Route} {status : Nat} {page : Page} (hroute : route ≠ .start)
    (h : (route.answer form host).result = .ok (.page status page)) :
    (∃ options, Continues (form.buildWith options) page.build) ∧
      page.input = if route = .build then "" else form.input := by
  cases hcoerce : form.options.coerce host.limits.shown with
  | error fault =>
      obtain ⟨mismatch, rfl⟩ := Form.exists_mismatch_of_coerce hcoerce
      cases route with
      | start => exact absurd rfl hroute
      | convert =>
          simp only [Route.answer, convert, hcoerce, rejected, Answer.ofPage] at h
          cases h
          exact ⟨⟨_, .same⟩, rfl⟩
      | validate =>
          simp only [Route.answer, validate, hcoerce, rejected, Answer.ofPage] at h
          cases h
          exact ⟨⟨_, .same⟩, rfl⟩
      | build =>
          simp only [Route.answer, build, hcoerce, rejected, Answer.ofPage] at h
          cases h
          exact ⟨⟨_, .same⟩, rfl⟩
  | ok options =>
      cases route with
      | start => exact absurd rfl hroute
      | convert =>
          rcases convert_cases hcoerce h with ⟨-, hpage⟩ | ⟨-, ⟨source, -, hpage⟩ | ⟨-, error, hpage⟩⟩
          · cases hpage
            exact ⟨⟨_, .same⟩, rfl⟩
          · cases hpage
            exact ⟨⟨_, .enter _ _ (.withSource _ (.enter _ _ .same))⟩, rfl⟩
          · cases hpage
            exact ⟨⟨_, .enter _ _ (.enter _ _ .same)⟩, rfl⟩
      | validate =>
          rcases validate_cases hcoerce h with ⟨corrected, analysis, -, hpage⟩ | ⟨-, error, hpage⟩
          · cases hpage
            exact ⟨⟨_, .enter _ _ (.withSource _ (.enter _ _ .same))⟩, rfl⟩
          · cases hpage
            exact ⟨⟨_, .enter _ _ (.enter _ _ .same)⟩, rfl⟩
      | build =>
          have hresult : (build form host).result = .ok (.page status page) := h
          rw [result_build hcoerce] at hresult
          split at hresult
          · cases hresult
            exact ⟨⟨_, .enter _ _ (.enter _ _ .same)⟩, rfl⟩
          · cases hresult

end Wizard

end SelfBuild
