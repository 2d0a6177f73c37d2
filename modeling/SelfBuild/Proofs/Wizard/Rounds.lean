import SelfBuild.Proofs.Drafting.Exchange
import SelfBuild.Proofs.Wizard.Carrying
import SelfBuild.Proofs.Wizard.Results

/-!
# Rounds with the wizard

A user goes on from a page by typing something and pressing one of its buttons, which posts what the page
holds.  Nothing but the page remembers what happened before, so a run of the wizard loses nothing only
because each round hands on the whole build: the project and the options as they are, the log with two
more entries or none, and the source unless the service gave another one.
-/

namespace SelfBuild

namespace Wizard

/-! ## Builds that a page can carry -/

/-- The name of the project is a text, and no line of the log is blank. -/
structure Postable (build : Build) : Prop where
  name_isSome : build.project.name.isSome = true
  log_nonblank : ∀ line ∈ build.log, Text.allBlank line.toList = false

variable {build : Build} {form : Form} {options : Options} {host : Host} {response : Response}

theorem postable_buildWith (form : Form) (options : Options) : Postable (form.buildWith options) where
  name_isSome := rfl
  log_nonblank := by
    intro line hline
    have hkept := (List.mem_filter.1 hline).2
    rwa [Bool.not_eq_true'] at hkept

/-- An entry starts with a bracket. -/
theorem allBlank_stamped (host : Host) (message : String) :
    Text.allBlank (host.stamped message).toList = false := by
  have hmem : '[' ∈ (host.stamped message).toList := by simp [Host.stamped, toString]
  exact List.all_eq_false.2 ⟨'[', hmem, by decide⟩

theorem Postable.enter (h : Postable build) (host : Host) (message : String) :
    Postable (host.enter message build) where
  name_isSome := h.name_isSome
  log_nonblank := by
    intro line hline
    rcases List.mem_append.1 hline with hold | hnew
    · exact h.log_nonblank line hold
    · obtain rfl := List.mem_singleton.1 hnew
      exact allBlank_stamped host message

theorem Postable.withSource (h : Postable build) (source : String) :
    Postable { build with source := source } :=
  ⟨h.name_isSome, h.log_nonblank⟩

theorem Postable.continues (h : Postable build) {later : Build} (hlater : Continues build later) :
    Postable later := by
  induction hlater with
  | same => exact h
  | enter host message _ ih => exact ih.enter host message
  | withSource source _ ih => exact ih.withSource source

/-- Every page that is answered can be posted again. -/
theorem postable_of_answer {route : Route} {status : Nat} {page : Page}
    (h : (route.answer form host).result = .ok (.page status page)) : Postable page.build := by
  by_cases hroute : route = .start
  · subst hroute
    cases h
    exact ⟨rfl, nofun⟩
  · obtain ⟨⟨options, hlater⟩, -⟩ := page_of_posted hroute h
    exact (postable_buildWith form options).continues hlater

/-! ## Rounds -/

/-- The buttons that lead to a page. -/
inductive Press where
  | convert
  | validate
  | preview
deriving DecidableEq, Repr

def Press.route : Press → Route
  | .convert => .convert
  | .validate => .validate
  | .preview => .build

/-- The action that a button posts, where it has a name. -/
def Press.action? : Press → Option String
  | .preview => some "preview"
  | .convert | .validate => none

/-- Fill in what the user types, and leave all other fields as they are. -/
def Form.typing (form : Form) (input : String) : Form :=
  form.map fun field => if field.1 = "raw_input" then (field.1, input) else field

/-- What a button posts: the fields that are read from the page, with an input typed. -/
def Press.posted (press : Press) (page : Page) (input : String) : Form :=
  (fields page.text.toList).typing input ++ pressed press.action?

def Press.answer (press : Press) (page : Page) (input : String) (host : Host) : Answer :=
  press.route.answer (press.posted page input) host

/-- A round of a user with the wizard, which ends with another page. -/
structure Round where
  press : Press
  input : String
  host : Host
  status : Nat
  next : Page

def Round.Follows (round : Round) (page : Page) : Prop :=
  (round.press.answer page round.input round.host).result = .ok (.page round.status round.next)

/-- The rounds that lead from a first page to another one. -/
inductive Run (first : Page) : List Round → Page → Prop
  | start : Run first [] first
  | round {rounds : List Round} {page : Page} {round : Round} (hrun : Run first rounds page)
      (hround : round.Follows page) : Run first (rounds ++ [round]) round.next

/-- Whether a round turns to the service. -/
def Round.asks (round : Round) : Bool :=
  match round.press with
  | .convert => !Text.allBlank round.input.toList
  | .validate => true
  | .preview => false

/-- The source that the service gives in a round, where it is asked for one and gives it. -/
def Round.given? (round : Round) (page : Page) : Option WideText :=
  match round.press with
  | .convert =>
      if Text.allBlank round.input.toList then none else round.host.draft? page.build round.input
  | .validate => (round.host.review? page.build).map Drafting.Review.corrected
  | .preview => none

/-- What a round makes of the build of its page. -/
structure Round.Keeps (round : Round) (page : Page) : Prop where
  project_eq : round.next.build.project = page.build.project
  options_eq : round.next.build.options = page.build.options
  log_eq : ∃ entries, round.next.build.log = page.build.log ++ entries ∧
    entries.length = if round.press = .convert ∧ Text.allBlank round.input.toList then 0 else 2
  source_eq : WideText.plain round.next.build.source = (round.given? page).getD page.build.source
  status_eq : round.status = if round.asks ∧ round.given? page = none then 503 else 200

/-! ## One round -/

variable {page : Page} {round : Round}

/-- Typing an input is all that sets a posted form apart from its page. -/
theorem Page.typing_form (page : Page) (input : String) :
    page.form.typing input = Page.form { page with input := input } := by
  unfold Page.form Page.projectForm Page.optionsForm Page.logForm Form.typing
  cases page.build.options.optimize <;> cases page.build.options.allowUnsafe <;> simp

/-- A form that is understood as a build and an input. -/
structure Form.Carries (form : Form) (build : Build) (input : String) : Prop where
  coerce_eq : ∀ nesting, form.options.coerce nesting = .ok build.options
  build_eq : form.buildWith build.options = build
  input_eq : form.input = input

theorem carries_posted (h : Postable page.build) (press : Press) (input : String) :
    (press.posted page input).Carries page.build input := by
  let typed : Page := { page with input := input }
  rw [Press.posted, page.fields_text, page.typing_form]
  exact ⟨fun nesting => typed.coerce_form _ nesting,
    (typed.buildWith_form_eq_iff _ h.log_nonblank).2 h.name_isSome,
    typed.input_form _⟩

/-- The action that is posted is the button's. -/
theorem lookup_action (page : Page) (button : Option String) :
    (page.form ++ pressed button).lookup "action" = button := by
  have hlog : (Page.logForm page.build.log).lookup "action" = none := by
    simp [Page.logForm, List.lookup_eq_none_iff]
  have hbutton : (pressed button).lookup "action" = button := by cases button <;> rfl
  have hform : page.form.lookup "action" = none := by
    unfold Page.form Page.optionsForm
    cases page.build.options.optimize <;> cases page.build.options.allowUnsafe <;> exact hlog
  rw [List.lookup_append, hform, hbutton]
  rfl

theorem value_action (page : Page) (input : String) :
    (Press.preview.posted page input).value "action" "" = "preview" := by
  rw [Press.posted, page.fields_text, page.typing_form, Form.value, lookup_action]
  rfl

section Keeps

variable {input : String} {status : Nat} {next : Page}

/-- Two entries more. -/
theorem log_enter_enter (host : Host) (first second : String) (build : Build) :
    (host.enter second (host.enter first build)).log =
      build.log ++ [host.stamped first, host.stamped second] := by
  simp [Host.enter, Host.stamped]

theorem keeps_convert (hform : form.Carries page.build input)
    (h : (convert form host).result = .ok (.page status next)) :
    Round.Keeps ⟨.convert, input, host, status, next⟩ page := by
  have hcases := convert_cases (hform.coerce_eq _) h
  rw [hform.build_eq, hform.input_eq] at hcases
  rcases hcases with ⟨hblank, hpage⟩ | ⟨hblank, ⟨source, hdraft, hpage⟩ | ⟨hdraft, error, hpage⟩⟩
  · cases hpage
    exact
      { project_eq := rfl
        options_eq := rfl
        log_eq := ⟨[], by simp, by simp [hblank]⟩
        source_eq := by simp [Round.given?, hblank]
        status_eq := by simp [Round.asks, hblank] }
  · cases hpage
    exact
      { project_eq := rfl
        options_eq := rfl
        log_eq := ⟨_, log_enter_enter host _ _ _, by simp [hblank]⟩
        source_eq := by simp [Round.given?, hblank, hdraft, Host.drafted, Host.enter]
        status_eq := by simp [Round.given?, hblank, hdraft] }
  · cases hpage
    exact
      { project_eq := rfl
        options_eq := rfl
        log_eq := ⟨_, log_enter_enter host _ _ _, by simp [hblank]⟩
        source_eq := by simp [Round.given?, hblank, hdraft, Host.enter]
        status_eq := by simp [Round.asks, Round.given?, hblank, hdraft] }

theorem keeps_validate (hform : form.Carries page.build input)
    (h : (validate form host).result = .ok (.page status next)) :
    Round.Keeps ⟨.validate, input, host, status, next⟩ page := by
  have hcases := validate_cases (hform.coerce_eq _) h
  rw [hform.build_eq, hform.input_eq] at hcases
  rcases hcases with ⟨corrected, analysis, hreview, hpage⟩ | ⟨hreview, error, hpage⟩
  · cases hpage
    exact
      { project_eq := rfl
        options_eq := rfl
        log_eq := ⟨_, log_enter_enter host _ _ _, rfl⟩
        source_eq := by simp [Round.given?, hreview, Host.reviewed, Host.enter]
        status_eq := by simp [Round.given?, hreview] }
  · cases hpage
    exact
      { project_eq := rfl
        options_eq := rfl
        log_eq := ⟨_, log_enter_enter host _ _ _, rfl⟩
        source_eq := by simp [Round.given?, hreview, Host.enter]
        status_eq := by simp [Round.asks, Round.given?, hreview] }

theorem keeps_preview (hform : form.Carries page.build input)
    (haction : form.value "action" "" = "preview")
    (h : (Wizard.build form host).result = .ok (.page status next)) :
    Round.Keeps ⟨.preview, input, host, status, next⟩ page := by
  rw [result_build (hform.coerce_eq _), if_pos haction, hform.build_eq] at h
  cases h
  exact
    { project_eq := rfl
      options_eq := rfl
      log_eq := ⟨_, log_enter_enter host _ _ _, rfl⟩
      source_eq := rfl
      status_eq := rfl }

end Keeps

/-- What one round keeps and changes. -/
theorem Round.keeps (h : Postable page.build) (hround : round.Follows page) : round.Keeps page := by
  obtain ⟨press, input, host, status, next⟩ := round
  have hform := carries_posted h press input
  have hresult : (press.route.answer (press.posted page input) host).result = .ok (.page status next) :=
    hround
  cases press with
  | convert => exact keeps_convert hform hresult
  | validate => exact keeps_validate hform hresult
  | preview => exact keeps_preview hform (value_action page input) hresult

/-- A button that is answered at all is answered with a page. -/
theorem Press.exists_page (h : Postable page.build) (press : Press) (input : String)
    (hanswer : (press.answer page input host).result = .ok response) :
    ∃ status next, response = .page status next := by
  have hform := carries_posted h press input
  have hresult : (press.route.answer (press.posted page input) host).result = .ok response := hanswer
  cases press with
  | convert =>
      have hconvert : (Wizard.convert (Press.convert.posted page input) host).result = .ok response :=
        hresult
      rcases convert_cases (hform.coerce_eq _) hconvert with
        ⟨-, hpage⟩ | ⟨-, ⟨source, -, hpage⟩ | ⟨-, error, hpage⟩⟩
      all_goals exact ⟨_, _, hpage⟩
  | validate =>
      have hvalidate : (Wizard.validate (Press.validate.posted page input) host).result = .ok response :=
        hresult
      rcases validate_cases (hform.coerce_eq _) hvalidate with
        ⟨corrected, analysis, -, hpage⟩ | ⟨-, error, hpage⟩
      all_goals exact ⟨_, _, hpage⟩
  | preview =>
      have hbuild : (Wizard.build (Press.preview.posted page input) host).result = .ok response := hresult
      rw [result_build (hform.coerce_eq _), if_pos (value_action page input)] at hbuild
      exact ⟨_, _, (Except.ok.inj hbuild).symm⟩

/-! ## Runs -/

theorem Run.postable {first : Page} {rounds : List Round} (hfirst : Postable first.build)
    (hrun : Run first rounds page) : Postable page.build := by
  cases hrun with
  | start => exact hfirst
  | round _ hround => exact postable_of_answer hround

/-- What a whole run keeps: the project, the options and every line of the log. -/
theorem Run.keeps {first : Page} {rounds : List Round} (hfirst : Postable first.build)
    (hrun : Run first rounds page) :
    page.build.project = first.build.project ∧ page.build.options = first.build.options ∧
      first.build.log <+: page.build.log := by
  induction hrun with
  | start => exact ⟨rfl, rfl, List.prefix_rfl⟩
  | round hrun hround ih =>
      obtain ⟨hproject, hoptions, hlog⟩ := ih
      have hkeeps := Round.keeps (hrun.postable hfirst) hround
      obtain ⟨entries, hentries, -⟩ := hkeeps.log_eq
      refine ⟨hkeeps.project_eq.trans hproject, hkeeps.options_eq.trans hoptions, ?_⟩
      rw [hentries]
      exact hlog.trans (List.prefix_append _ _)

/-- Runs of the wizard lose nothing.  Whatever a route answers can be a first page.  On every page of a run
the project and the options are those of the first page, and the log goes on from its log; every button
that is answered leads to another page, and each round keeps what it should. -/
theorem runs_lose_nothing :
    (∀ route form host status page,
      (Route.answer route form host).result = .ok (.page status page) → Postable page.build) ∧
    ∀ first rounds page, Postable first.build → Run first rounds page →
      page.build.project = first.build.project ∧ page.build.options = first.build.options ∧
        first.build.log <+: page.build.log ∧
        (∀ (press : Press) input host response, (press.answer page input host).result = .ok response →
          ∃ status next, response = .page status next) ∧
        ∀ round : Round, round.Follows page → round.Keeps page := by
  refine ⟨fun _ _ _ _ _ h => postable_of_answer h, fun first rounds page hfirst hrun => ?_⟩
  have hpage := hrun.postable hfirst
  obtain ⟨hproject, hoptions, hlog⟩ := hrun.keeps hfirst
  exact ⟨hproject, hoptions, hlog, fun press input _ _ h => press.exists_page hpage input h,
    fun _ hround => Round.keeps hpage hround⟩

/-- From the first page a source is drafted, the artifact is shown, and a blank input changes nothing. -/
theorem runs_lose_nothing_of_clock :
    let host : Host :=
      { disk := ⟨[], []⟩
        home := "/home"
        environment := [("GEMINI_API_KEY", "k")]
        clock := "10:20:30"
        reply := .answered 200 "OK"
          "\x7b\"candidates\":[\x7b\"content\":\x7b\"parts\":[\x7b\"text\":\"int x;\"\x7d]\x7d\x7d]\x7d" }
    let drafted : Page := { build := host.drafted {} "int x;", input := "a clock" }
    let shown : Page := host.previewed drafted.build
    let rounds : List Round :=
      [⟨.convert, "a clock", host, 200, drafted⟩, ⟨.preview, "a clock", host, 200, shown⟩]
    let last : Round := ⟨.convert, " ", host, 200, { build := shown.build, input := " " }⟩
    Postable ({} : Page).build ∧ Run {} rounds shown ∧ last.Follows shown ∧ last.Keeps shown ∧
      shown.build.project = {} ∧ shown.build.source = "int x;" ∧
      shown.build.log =
        [ "[10:20:30] Sending request to Gemini AI...", "[10:20:30] Code transpiled successfully."
        , "[10:20:30] Initialising build sequence...", "[10:20:30] Build artifact ready (preview)." ] := by
  intro host drafted shown rounds last
  let settings : Settings := { apiKey := .string "k" }
  have hload : host.settings = .ok settings := rfl
  have hbrings : host.reply.Brings host.limits.reply "int x;" := by decide +kernel
  have hdraft : (Drafting.draft host.limits settings "a clock" true host.reply).result = .ok "int x;" :=
    Drafting.draft_of_brings (by decide) hbrings
  obtain ⟨hpostable, hruns⟩ := runs_lose_nothing
  have hfirst : Postable ({} : Page).build := hpostable .start [] host 200 {} rfl
  have hconvert : Round.Follows ⟨.convert, "a clock", host, 200, drafted⟩ {} := by
    have hform := carries_posted hfirst .convert "a clock"
    have hblank : Text.allBlank (Press.convert.posted {} "a clock").input.toList = false := by
      rw [hform.input_eq]
      decide
    rw [← hform.input_eq] at hdraft
    have hresult := (result_convert_of_draft (hform.coerce_eq _) hblank hload hdraft).trans
      (showing_stamp_plain host _ _ _)
    rw [Host.sending, hform.build_eq, hform.input_eq] at hresult
    exact hresult
  have hdrafted : Run {} [⟨.convert, "a clock", host, 200, drafted⟩] drafted := .round .start hconvert
  have hpreview : Round.Follows ⟨.preview, "a clock", host, 200, shown⟩ drafted := by
    have hform := carries_posted (hdrafted.postable hfirst) .preview "a clock"
    have hresult := result_build (hform.coerce_eq host.limits.shown)
    rw [if_pos (value_action drafted "a clock"), hform.build_eq] at hresult
    exact hresult
  have hshown : Run {} rounds shown := .round hdrafted hpreview
  have hlast : last.Follows shown := by
    have hform := carries_posted (hshown.postable hfirst) .convert " "
    have hblank : Text.allBlank (Press.convert.posted shown " ").input.toList = true := by
      rw [hform.input_eq]
      decide
    have hresult := result_convert_of_blank (hform.coerce_eq host.limits.shown) hblank
    rw [hform.build_eq, hform.input_eq] at hresult
    exact hresult
  obtain ⟨hproject, -, -, -, hkeeps⟩ := hruns {} rounds shown hfirst hshown
  exact ⟨hfirst, hshown, hlast, hkeeps last hlast, hproject, rfl, by decide⟩

end Wizard

end SelfBuild
