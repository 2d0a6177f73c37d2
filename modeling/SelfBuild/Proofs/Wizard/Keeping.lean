import SelfBuild.Proofs.Wizard.Carrying
import SelfBuild.Proofs.Wizard.Status

/-!
# What a page keeps of its form

A page that answers a form shows the project that was posted, whatever the answer is.  What the user typed
for the service is shown again only where the form asked for a draft or a review: a page that answers the
demand for a build, because it shows the artifact or refuses the options, comes with an empty field.
-/

namespace SelfBuild

namespace Wizard

variable {form : Form} {host : Host} {response : Response} {name : String}

/-- The values of all fields with one name. -/
def Form.values (form : Form) (name : String) : List String :=
  form.filterMap fun field => if field.1 = name then some field.2 else none

theorem Form.values_append (form later : Form) (name : String) :
    (form ++ later).values name = form.values name ++ later.values name :=
  List.filterMap_append

/-- The fields of the project, each with the text that stands in for it where a form leaves it out. -/
def projectFields : List (String × String) :=
  [("project_name", "MyApp"), ("version", "1.0.0"), ("author", ""), ("copyright", ""), ("description", "")]

namespace Page

theorem values_logForm (hname : name ≠ "log") (log : List String) : (logForm log).values name = [] := by
  simp [Form.values, logForm, hname.symm]

theorem values_optionsForm
    (hname : name ∉ ["architecture", "output_type", "enable_optimization", "allow_unsafe"])
    (options : Options) : (optionsForm options).values name = [] := by
  simp only [List.mem_cons, List.not_mem_nil, or_false, not_or] at hname
  obtain ⟨ha, ho, hn, hu⟩ := hname
  unfold optionsForm
  cases options.optimize <;> cases options.allowUnsafe <;>
    simp [Form.values, Ne.symm ha, Ne.symm ho, Ne.symm hn, Ne.symm hu]

/-- Only the project and the two texts of the code have fields of other names. -/
theorem values_form (page : Page)
    (hname : name ∉ ["architecture", "output_type", "enable_optimization", "allow_unsafe", "log"]) :
    page.form.values name =
      (projectForm page.build.project).values name ++
        Form.values [("raw_input", page.input), ("source_code", page.build.source)] name := by
  have hoptions : (optionsForm page.build.options).values name = [] :=
    values_optionsForm (fun h => hname (List.mem_append_left ["log"] h)) _
  have hlog : (logForm page.build.log).values name = [] :=
    values_logForm (fun h => hname (by simp [h])) _
  rw [form, Form.values_append, Form.values_append, Form.values_append, hoptions, hlog, List.nil_append,
    List.append_nil]

theorem values_input_form (page : Page) : page.form.values "raw_input" = [page.input] :=
  page.values_form (by decide)

/-- Every field of the project is there once. -/
theorem values_project_form (page : Page) (form : Form) (hproject : page.build.project = form.project)
    {entry : String × String} (hentry : entry ∈ projectFields) :
    page.form.values entry.1 = [form.value entry.1 entry.2] := by
  have hnames : ∀ entry ∈ projectFields,
      entry.1 ∉ ["architecture", "output_type", "enable_optimization", "allow_unsafe", "log"] := by decide
  rw [page.values_form (hnames entry hentry), hproject]
  simp only [projectFields, List.mem_cons, List.not_mem_nil, or_false] at hentry
  rcases hentry with rfl | rfl | rfl | rfl | rfl <;> rfl

end Page

/-- What a page shows of the form that it answers.  All fields of the project come back as they were posted.
What was typed for the service comes back from the two routes that use it; from a build it comes back only
if nothing was typed. -/
theorem shown_of_posted {path : String} {route : Route} (hroute : Route.of? "POST" path = some route)
    (hanswer : (route.answer form host).result = .ok response)
    (hpage : response.contentType = "text/html; charset=utf-8") :
    let shown := fields response.body.toList
    (∀ entry ∈ projectFields, shown.values entry.1 = [form.value entry.1 entry.2]) ∧
      shown.values "raw_input" = [if route = .build then "" else form.input] ∧
      (shown.values "raw_input" = [form.input] ↔ route ≠ .build ∨ form.input = "") := by
  cases response with
  | download name artifact => simp [Response.contentType] at hpage
  | page status page =>
      obtain ⟨⟨options, hbuild⟩, hinput⟩ := page_of_posted (of?_post_ne_start hroute) hanswer
      intro shown
      have hshown : shown = page.form := page.fields_text
      have hvalues : shown.values "raw_input" = [if route = .build then "" else form.input] := by
        rw [hshown, page.values_input_form, hinput]
      have hproject : ∀ entry ∈ projectFields, shown.values entry.1 = [form.value entry.1 entry.2] := by
        rw [hshown]
        exact fun entry hentry => page.values_project_form form hbuild.project_eq hentry
      refine ⟨hproject, hvalues, ?_⟩
      rw [hvalues]
      by_cases hroute : route = .build
      · simp only [hroute, if_true, List.cons.injEq, and_true, ne_eq, not_true, false_or]
        exact eq_comm
      · simp [hroute]

/-- A review of a program for a machine that there is none of is refused, and the page shows what was typed
with its markup. -/
theorem shown_of_posted_of_arm :
    let host : Host :=
      { disk := ⟨[], []⟩, home := "/home", clock := "10:20:30", reply := .failed "offline" }
    let form : Form := [("raw_input", "a <b> & c"), ("author", "\"me\""), ("architecture", "ARM64")]
    Route.of? "POST" "/validate" = some .validate ∧
      ∃ page, (Route.validate.answer form host).result = .ok (.page 400 page) ∧
        (fields page.text.toList).values "raw_input" = ["a <b> & c"] ∧
        (fields page.text.toList).values "author" = ["\"me\""] := by
  intro host form
  have hroute : Route.of? "POST" "/validate" = some .validate := rfl
  have hnot : ¬ form.Coercible := by decide +kernel
  obtain ⟨mismatch, hcoerce⟩ := Form.exists_mismatch hnot host.limits.shown
  have hanswer : (Route.validate.answer form host).result =
      (rejected form form.input (.mismatch mismatch)).result := by
    simp only [Route.answer, validate, hcoerce]
  obtain ⟨hproject, hinput, -⟩ := shown_of_posted hroute hanswer rfl
  exact ⟨hroute, _, hanswer, hinput, hproject ("author", "") (by decide)⟩

/-- A demand for a build loses what was typed, on the page that shows the artifact and on the one that refuses
the options. -/
theorem input_lost_by_build :
    let host : Host :=
      { disk := ⟨[], []⟩, home := "/home", clock := "10:20:30", reply := .failed "offline" }
    let form : Form := [("raw_input", "a clock"), ("action", "preview")]
    let wrong : Form := [("raw_input", "a clock"), ("architecture", "ARM64")]
    ∃ shown refused,
      (Route.build.answer form host).result = .ok (.page 200 shown) ∧
        (Route.build.answer wrong host).result = .ok (.page 400 refused) ∧
        (fields shown.text.toList).values "raw_input" = [""] ∧
        (fields refused.text.toList).values "raw_input" = [""] ∧
        form.input = "a clock" ∧ wrong.input = "a clock" := by
  intro host form wrong
  have hcoerce : form.options.coerce host.limits.shown = .ok ⟨.anyCpu, .console, false, false⟩ :=
    Options.coerce_toRaw _ ⟨.anyCpu, .console, false, false⟩
  have hnot : ¬ wrong.Coercible := by decide +kernel
  obtain ⟨mismatch, hwrong⟩ := Form.exists_mismatch hnot host.limits.shown
  have hshown : (Route.build.answer form host).result =
      .ok (.page 200 (host.previewed (form.buildWith ⟨.anyCpu, .console, false, false⟩))) :=
    (result_build hcoerce).trans (if_pos rfl)
  have hrefused : (Route.build.answer wrong host).result =
      (rejected wrong "" (.mismatch mismatch)).result := by
    simp only [Route.answer, build, hwrong]
  have hempty (page : Page) (hinput : page.input = "") :
      (fields page.text.toList).values "raw_input" = [""] := by
    rw [page.fields_text, page.values_input_form, hinput]
  exact ⟨_, _, hshown, hrefused, hempty _ rfl, hempty _ rfl, rfl, rfl⟩

end Wizard

end SelfBuild
