import SelfBuild.Drafting.Exchange

/-!
# The key of an exchange

An exchange asks whether there is a key, and sends it along with its one post.  What becomes of the reply
is settled without the key, so runs with two different keys cannot be told apart but by the field of the
post in which the key travels.
-/

namespace SelfBuild

/-- The same settings with another key. -/
def Settings.withKey (settings : Settings) (key : WideText) : Settings :=
  { settings with apiKey := .string key }

namespace Drafting

variable {α β : Type} {limits : Json.Limits} {settings : Settings} {reply : Reply}
variable {key other : WideText}

/-! ## Settling a reply -/

/-- What a report becomes once its result is settled, with some log lines. -/
def Report.settle (report : Report α) (verdict : α → β × List Log.Line) : Report β where
  result := (verdict report.result).1
  posts := report.posts
  log := report.log ++ (verdict report.result).2

/-- The draft that is made of what the service says. -/
def draftVerdict : Except Fault WideText → Except Fault WideText × List Log.Line
  | .ok text => (.ok (codeOf text), [])
  | .error (.beyondLimits fault) => (.error (.beyondLimits fault), [])
  | .error fault =>
      (.ok fallbackProgram, [⟨.warning, s!"C# conversion failed: {fault.message}"⟩])

/-- A review that keeps the program, for a reason. -/
def keptVerdict (source : WideText) (reason : String) : Except ReviewFault Review × List Log.Line :=
  (.ok ⟨source, failedAnalysis⟩, [⟨.warning, s!"C# validation failed: {reason}"⟩])

/-- The review that is made of what the service says. -/
def reviewVerdict (nesting : Json.Nesting) (source : WideText) :
    Except Fault WideText → Except ReviewFault Review × List Log.Line
  | .error (.beyondLimits fault) => (.error (.beyondLimits fault), [])
  | .error fault => keptVerdict source fault.message
  | .ok text =>
      match Json.read nesting text with
      | .error fault =>
          if fault.isSyntax then keptVerdict source fault.message
          else (.error (.beyondLimits fault), [])
      | .ok value =>
          match correction? value with
          | none => keptVerdict source "reply has no usable correctedCode"
          | some code => (.ok ⟨code, analysisOf value⟩, [])

theorem generate_of_key (hkey : settings.apiKey.isPresent = true) (prompt : WideText)
    (prompting : Prompting) :
    generate limits settings prompt prompting reply =
      { result := reply.text limits.reply (url settings)
        posts := [⟨url settings, body prompt prompting, settings.apiKey, settings.timeout⟩] } := by
  simp only [generate, hkey, if_true]

/-- A draft is one request and a verdict on what comes back. -/
theorem draft_eq_settle (hkey : settings.apiKey.isPresent = true) (description : WideText)
    (console : Bool) :
    draft limits settings description console reply =
      (generate limits settings (draftPrompt description console)
        { system := some instruction, temperature := settings.temperature } reply).settle
          draftVerdict := by
  simp only [draft, hkey, if_true, generate_of_key hkey, Report.settle, List.nil_append]
  cases reply.text limits.reply (url settings) with
  | ok text => rfl
  | error fault => cases fault <;> rfl

/-- A review is one request and a verdict on what comes back. -/
theorem review_eq_settle (hkey : settings.apiKey.isPresent = true) (source : WideText) :
    review limits settings source reply =
      (generate limits settings (reviewPrompt source) { mimeType := some "application/json" }
        reply).settle (reviewVerdict limits.review source) := by
  simp only [review, hkey, if_true, generate_of_key hkey, Report.settle, List.nil_append]
  cases reply.text limits.reply (url settings) with
  | error fault => cases fault <;> rfl
  | ok text =>
      simp only [reviewVerdict]
      cases Json.read limits.review text with
      | error fault => by_cases hshape : fault.isSyntax = true <;> simp [hshape, keptVerdict]
      | ok value => cases hcode : correction? value <;> simp [hcode, keptVerdict]

/-! ## Two keys -/

/-- Two posts that differ in nothing but the keys that they carry. -/
structure SameButKey (key other : WideText) (post post' : Post) : Prop where
  url_eq : post.url = post'.url
  body_eq : post.body = post'.body
  timeout_eq : post.timeout = post'.timeout
  key_eq : post.key = .string key
  key_eq' : post'.key = .string other

/-- Two reports that show their keys nowhere but in the one post that each of them sent. -/
structure Conceals (key other : WideText) (report report' : Report α) : Prop where
  result_eq : report.result = report'.result
  log_eq : report.log = report'.log
  posts : ∃ post post', report.posts = [post] ∧ report'.posts = [post'] ∧
    SameButKey key other post post'

/-- A verdict sees the result alone, so it cannot give a key away. -/
theorem Conceals.settle {report report' : Report α} (h : Conceals key other report report')
    (verdict : α → β × List Log.Line) :
    Conceals key other (report.settle verdict) (report'.settle verdict) where
  result_eq := by simp only [Report.settle, h.result_eq]
  log_eq := by simp only [Report.settle, h.result_eq, h.log_eq]
  posts := h.posts

theorem isPresent_withKey (hkey : key ≠ .plain "") (settings : Settings) :
    (settings.withKey key).apiKey.isPresent = true := by
  simpa [Settings.withKey, Json.Value.isPresent] using hkey

theorem conceals_generate (limits : Json.Limits) (hkey : key ≠ .plain "") (hother : other ≠ .plain "")
    (settings : Settings) (prompt : WideText) (prompting : Prompting) (reply : Reply) :
    Conceals key other (generate limits (settings.withKey key) prompt prompting reply)
      (generate limits (settings.withKey other) prompt prompting reply) := by
  rw [generate_of_key (isPresent_withKey hkey settings),
    generate_of_key (isPresent_withKey hother settings)]
  exact ⟨rfl, rfl, _, _, rfl, rfl, ⟨rfl, rfl, rfl, rfl, rfl⟩⟩

/-- With two keys everything is the same but the keys in the posts: what is answered, why it failed, what
is logged, and what else is sent. -/
theorem key_only_in_posts (limits : Json.Limits) (hkey : key ≠ .plain "") (hother : other ≠ .plain "")
    (settings : Settings) (reply : Reply) :
    (∀ prompt prompting,
      Conceals key other (generate limits (settings.withKey key) prompt prompting reply)
        (generate limits (settings.withKey other) prompt prompting reply)) ∧
      (∀ description console,
        Conceals key other (draft limits (settings.withKey key) description console reply)
          (draft limits (settings.withKey other) description console reply)) ∧
      ∀ source,
        Conceals key other (review limits (settings.withKey key) source reply)
          (review limits (settings.withKey other) source reply) := by
  have hpresent := isPresent_withKey hkey settings
  have hpresent' := isPresent_withKey hother settings
  refine ⟨fun prompt prompting => conceals_generate limits hkey hother settings prompt prompting reply,
    fun description console => ?_, fun source => ?_⟩
  · rw [draft_eq_settle hpresent, draft_eq_settle hpresent']
    exact (conceals_generate limits hkey hother settings _ _ reply).settle draftVerdict
  · rw [review_eq_settle hpresent, review_eq_settle hpresent']
    exact (conceals_generate limits hkey hother settings _ _ reply).settle
      (reviewVerdict limits.review source)

/-- A refused post, with a reason that spells one of the keys. -/
theorem key_only_in_posts_of_status :
    let settings : Settings := { apiBase := .string "https://k.example", timeout := .int 5 }
    let reply : Reply := .answered 403 "Forbidden for k" "k"
    ("k" : WideText) ≠ "" ∧ ("other" : WideText) ≠ "" ∧
      Conceals "k" "other" (generate {} (settings.withKey "k") "a clock" {} reply)
        (generate {} (settings.withKey "other") "a clock" {} reply) ∧
      Conceals "k" "other" (draft {} (settings.withKey "k") "a clock" true reply)
        (draft {} (settings.withKey "other") "a clock" true reply) ∧
      Conceals "k" "other" (review {} (settings.withKey "k") "class Mine;" reply)
        (review {} (settings.withKey "other") "class Mine;" reply) := by
  intro settings reply
  have hkey : ("k" : WideText) ≠ "" := by decide
  have hother : ("other" : WideText) ≠ "" := by decide
  obtain ⟨hgenerate, hdraft, hreview⟩ := key_only_in_posts {} hkey hother settings reply
  exact ⟨hkey, hother, hgenerate "a clock" {}, hdraft "a clock" true, hreview "class Mine;"⟩

end Drafting

end SelfBuild
