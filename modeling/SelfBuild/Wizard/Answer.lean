import SelfBuild.Drafting.Exchange
import SelfBuild.Lint.Batch
import SelfBuild.Wizard.Form
import SelfBuild.Wizard.Page

/-!
# Answers of the wizard

Every route answers a form with a page or a download, and keeps nothing: the page carries the build
on.  Options that mean nothing are answered with what the user typed and the options of a first page.
A fault of the settings or the service is shown on the page as well, except for settings whose file
cannot be looked at or whose values are no numbers at all, and for JSON texts on which the reader
gives up; `Fault.isShown` says which ones.  A page goes out in UTF-8, so a route has no answer where the
service gave a text that is no plain one.
-/

namespace SelfBuild

namespace Wizard

/-- All that a route can see beside the form. -/
structure Host where
  disk : Disk
  home : Path.Homes
  environment : Environment := []
  clock : String
  reply : Drafting.Reply
  limits : Json.Limits := {}

inductive Response where
  | page (status : Nat) (page : Page)
  | download (name artifact : String)
deriving DecidableEq, Repr

def Response.status : Response -> Nat
  | .page status _ => status
  | .download .. => 200

def Response.contentType : Response -> String
  | .page .. => "text/html; charset=utf-8"
  | .download .. => "text/plain; charset=utf-8"

def Response.disposition? : Response -> Option String
  | .page .. => none
  | .download name _ => some ("attachment; filename=\"" ++ name ++ "\"")

def Response.body : Response -> String
  | .page _ shown => shown.text
  | .download _ artifact => artifact

/-- Why the service is of no help, or a page cannot be made or sent. -/
inductive Fault where
  | settings (fault : Settings.Fault)
  | service (fault : Drafting.Fault)
  | review (fault : Drafting.ReviewFault)
  | unshowable (fault : Json.ShowFault)
  | encoding (fault : EncodingFault)

def Fault.message : Fault -> String
  | .settings fault => fault.message
  | .service fault => fault.message
  | .review fault => fault.message
  | .unshowable fault => fault.message
  | .encoding fault => fault.message

/-- Whether a fault is shown on a page. -/
def Fault.isShown : Fault -> Bool
  | .settings (.unreadable (.disk fault)) => !fault.isSystem
  | .settings (.number (.notANumber _)) => false
  | .settings (.number .tooLarge) => false
  | .settings (.beyondLimits fault) => !fault.isExhaustion
  | .service (.beyondLimits fault) => !fault.isExhaustion
  | .review (.beyondLimits fault) => !fault.isExhaustion
  | .unshowable _ => false
  | .encoding _ => false
  | _ => true

/-- What a route leaves behind: a response, or a fault that it does not show. -/
structure Answer where
  result : Except Fault Response
  posts : List Drafting.Post := []
  log : List Log.Line := []

def Answer.ofPage (status : Nat) (page : Page) : Answer :=
  { result := .ok (.page status page) }

/-- Add an entry to the log of a build, with the time in front. -/
def Host.enter (host : Host) (message : String) (build : Build) : Build :=
  { build with log := build.log ++ [s!"[{host.clock}] {message}"] }

/-- A time with a message behind it. -/
def Host.stamp (host : Host) (message : WideText) : WideText :=
  WideText.plain s!"[{host.clock}] " ++ message

/-- The log of a page with one more entry. -/
def Page.logWith (page : Page) (entry : WideText) : List WideText :=
  page.build.log.map WideText.plain ++ [entry]

/-- Show a page with a source of the service and one more entry, if that can be encoded. -/
def Page.showing (page : Page) (source entry : WideText) : Except Fault Response := do
  let log := page.logWith entry
  let _ ← (wideText (page.piecesWith source log)).toPlain.mapError Fault.encoding
  let build := { page.build with source := source.seen, log := log.map WideText.seen }
  return .page 200 { page with build := build }

def rejected (form : Form) (input : String) : Options.Fault -> Answer
  | .mismatch mismatch =>
      .ofPage 400
        { build := form.buildWith {}
          input := input
          error := mismatch.message }
  | .unshowable fault => { result := .error (.unshowable fault) }

/-- Answer with a fault, after an entry that says what failed. -/
def Host.refuse (host : Host) (action entry : String) (page : Page) (fault : Fault)
    (posts : List Drafting.Post) (log : List Log.Line) : Answer :=
  if fault.isShown then
    { result :=
        .ok <| .page 503
          { page with build := host.enter entry page.build, error := fault.message }
      posts := posts
      log := log ++ [⟨.warning, s!"{action} failed: {fault.message}"⟩] }
  else { result := .error fault, posts := posts, log := log }

def Host.settings (host : Host) : Except Settings.Fault Settings :=
  Settings.load host.limits.settings host.disk host.home none host.environment

/-- Draft a source for what the user typed; where nothing is typed, nothing is done. -/
def convert (form : Form) (host : Host) : Answer :=
  match form.options.coerce host.limits.shown with
  | .error fault => rejected form form.input fault
  | .ok options =>
      let build := form.buildWith options
      if Text.allBlank form.input.toList then .ofPage 200 { build := build, input := form.input }
      else
        let sent := host.enter "Sending request to Gemini AI..." build
        let page : Page := { build := sent, input := form.input }
        let failed := host.refuse "convert" "Transpilation failed." page
        match host.settings with
        | .error fault => failed (.settings fault) [] []
        | .ok settings =>
            let report :=
              Drafting.draft host.limits settings form.input options.isConsole host.reply
            match report.result with
            | .error fault => failed (.service fault) report.posts report.log
            | .ok source =>
                { result := page.showing source (host.stamp "Code transpiled successfully.")
                  posts := report.posts
                  log := report.log }

def validate (form : Form) (host : Host) : Answer :=
  match form.options.coerce host.limits.shown with
  | .error fault => rejected form form.input fault
  | .ok options =>
      let sent := host.enter "Validating syntax and security..." (form.buildWith options)
      let page : Page := { build := sent, input := form.input }
      let failed := host.refuse "validate" "Validation failed." page
      match host.settings with
      | .error fault => failed (.settings fault) [] []
      | .ok settings =>
          let report := Drafting.review host.limits settings sent.source host.reply
          match report.result with
          | .error fault => failed (.review fault) report.posts report.log
          | .ok review =>
              let finished := WideText.plain "Validation finished: " ++ review.analysis
              { result := page.showing review.corrected (host.stamp finished)
                posts := report.posts
                log := report.log }

def unsound (build : Build) (notes : List Note) (findings : List Lint.Finding) : Answer :=
  let codes := Json.Value.array (findings.map fun finding => .string finding.cause.code)
  { result :=
      .ok <| .page 500
        { build := build
          error := "Generated preamble failed self-check."
          notes := notes ++ findings.map Note.ofFinding }
    log := [⟨.error, s!"generated preamble failed lint: {codes.display}"⟩] }

/-- Build an artifact, and show it or hand it over.  What the user typed is not kept. -/
def build (form : Form) (host : Host) : Answer :=
  match form.options.coerce host.limits.shown with
  | .error fault => rejected form "" fault
  | .ok options =>
      let build := host.enter "Initialising build sequence..." (form.buildWith options)
      let artifact := build.artifact
      let notes := build.remarks.map Note.ofRemark
      match (Lint.artifact? artifact.toList).getD [] with
      | finding :: findings => unsound build notes (finding :: findings)
      | [] =>
          if form.value "action" "" = "preview" then
            .ofPage 200
              { build := host.enter "Build artifact ready (preview)." build
                notes := notes
                preview := artifact }
          else
            let name := FileName.download build.project none
            { result := .ok (.download name artifact)
              log := [⟨.info, s!"artifact {name} composed ({artifact.length} chars)"⟩] }

/-- What a user can ask of the wizard. -/
inductive Route where
  | start
  | convert
  | validate
  | build
deriving DecidableEq, Repr

def Route.of? : String -> String -> Option Route
  | "GET", "/" => some .start
  | "POST", "/convert" => some .convert
  | "POST", "/validate" => some .validate
  | "POST", "/build" => some .build
  | _, _ => none

def Route.answer (route : Route) (form : Form) (host : Host) : Answer :=
  match route with
  | .start => .ofPage 200 {}
  | .convert => Wizard.convert form host
  | .validate => Wizard.validate form host
  | .build => Wizard.build form host

end Wizard

end SelfBuild
