import SelfBuild.CommandLine.Command
import SelfBuild.Delivery
import SelfBuild.Drafting.Exchange
import SelfBuild.Lint.Batch
import SelfBuild.Request

/-!
# Running a command

A run sees a host, which is the disk, the environment, the standard input, the reply that the
drafting service would give and the limits of the process, and leaves behind an outcome.  Faults that
a user can mend are reported on one line of the standard error; `Fault.isReported` says which ones.
Only plain texts can be printed or written, and a text that is none is found out when the output is
already open.
-/

namespace SelfBuild

namespace CommandLine

/-- All that a run can see. -/
structure Host where
  disk : Disk
  home : Path.Homes
  environment : Environment := []
  stdin : WideText := ""
  reply : Drafting.Reply
  limits : Json.Limits := {}

/-- Why a command fails. -/
inductive Fault where
  | reading (fault : Disk.ReadFault)
  | request (fault : Request.Fault)
  | unshowable (fault : Json.ShowFault)
  | loading (fault : Request.LoadFault)
  | options (fault : Options.Fault)
  | settings (fault : Settings.Fault)
  | service (fault : Drafting.Fault)
  | notArtifact
  | delivery (fault : Delivery.Fault)
  | disk (fault : Disk.Fault)
  | encoding (fault : EncodingFault)

def Fault.message : Fault -> String
  | .reading fault => fault.message
  | .request fault => fault.message
  | .unshowable fault => fault.message
  | .loading fault => fault.message
  | .options fault => fault.message
  | .settings fault => fault.message
  | .service fault => fault.message
  | .notArtifact => Artifact.splitFailure
  | .delivery fault => fault.message
  | .disk fault => fault.message
  | .encoding fault => fault.message

/-- Whether a fault is reported to the user.  Values of a settings file that can be no numbers at all
are not, and neither is a JSON text on which the reader gives up, a value on which showing gives up,
or a delivery that was never attempted. -/
def Fault.isReported : Fault -> Bool
  | .request (.badOption fault) => !fault.isExhaustion
  | .unshowable fault => !fault.isExhaustion
  | .options fault => !fault.isExhaustion
  | .loading (.beyondLimits fault) => !fault.isExhaustion
  | .settings (.beyondLimits fault) => !fault.isExhaustion
  | .service (.beyondLimits fault) => !fault.isExhaustion
  | .settings (.number (.notANumber _)) => false
  | .settings (.number .tooLarge) => false
  | .delivery .notAttempted => false
  | _ => true

/-- How a run ends. -/
inductive Exit where
  | code (n : Nat)
  | crash (fault : Fault)

/-- What a run leaves behind. -/
structure Outcome where
  exit : Exit
  stdout : String := ""
  stderr : String := ""
  disk : Disk
  posts : List Drafting.Post := []
  log : List Log.Line := []

def Outcome.fail (outcome : Outcome) (fault : Fault) : Outcome :=
  if fault.isReported then
    { outcome with
      exit := .code 2
      stderr := outcome.stderr ++ "ERROR: " ++ fault.message ++ "\n" }
  else { outcome with exit := .crash fault }

/-- Print a text and an ending, or nothing at all. -/
def Outcome.print (outcome : Outcome) (text : WideText) (ending : String) : Outcome :=
  match text.toPlain with
  | .ok text => { outcome with stdout := text ++ ending }
  | .error fault => outcome.fail (.encoding fault)

/-- Open a file, which empties it, and fill it with a text. -/
def Outcome.write (outcome : Outcome) (path : Path) (text : WideText) (report : String) : Outcome :=
  match outcome.disk.write path ByteArray.empty with
  | .error fault => outcome.fail (.disk fault)
  | .ok opened =>
      let begun := { outcome with disk := opened }
      match text.encode with
      | .error fault => begun.fail (.encoding fault)
      | .ok bytes =>
          match opened.write path bytes with
          | .error fault => begun.fail (.disk fault)
          | .ok disk => { begun with disk := disk, stdout := report }

def Host.begin (host : Host) : Outcome :=
  { exit := .code 0, disk := host.disk }

/-- The source that an argument names, where a hyphen stands for the standard input. -/
def sourceText (host : Host) : Option String -> Except Fault (Option WideText)
  | none => .ok none
  | some "-" => .ok (some host.stdin.normalizeEnds)
  | some path =>
      match host.disk.readText (Path.ofString path) with
      | .ok text => .ok (some text)
      | .error fault => .error (.reading fault)

/-- The values of the options. -/
def BuildRequest.raw (request : BuildRequest) : Options.Raw where
  architecture := .string request.architecture
  output := .string request.mode
  optimize := .bool !request.noOptimize
  allowUnsafe := .bool request.allowUnsafe

/-- The description that the options give. -/
def BuildRequest.metadata (request : BuildRequest) : Metadata where
  name := request.name
  version := request.version
  author := request.author
  copyright := request.copyright
  description := request.description

def BuildRequest.ownOrder (request : BuildRequest) (host : Host) (source? : Option WideText) :
    Except Fault Order :=
  match request.raw.coerce host.limits.shown with
  | .error fault => .error (.options fault)
  | .ok options =>
      .ok
        { metadata := request.metadata
          options := options
          source := source?.getD Project.sampleProgram }

def fileOrder (host : Host) (path : String) (source? : Option WideText) : Except Fault Order :=
  match Request.load host.limits.request host.disk (Path.ofString path) with
  | .error fault => .error (.loading fault)
  | .ok value =>
      match Request.unshowable? host.limits.shown value with
      | some fault => .error (.unshowable fault)
      | none =>
          match Request.toOrder host.limits.shown value source? with
          | .ok order => .ok order
          | .error fault => .error (.request fault)

/-- The build that is ordered; a request's file goes before the options. -/
def BuildRequest.toOrder (request : BuildRequest) (host : Host) : Except Fault Order :=
  match sourceText host request.source with
  | .error fault => .error fault
  | .ok source? =>
      match request.request.filter (· ≠ "") with
      | some path => fileOrder host path source?
      | none => request.ownOrder host source?

def remarkLine (remark : Artifact.Remark) : String :=
  s!"{remark.kind} {remark.code}: {remark.message}\n"

/-- Build an artifact, and write or print it. -/
def build (request : BuildRequest) (host : Host) : Outcome :=
  match request.toOrder host with
  | .error fault => host.begin.fail fault
  | .ok order =>
      let remarked := { host.begin with stderr := String.join (order.remarks.map remarkLine) }
      if request.toStdout then remarked.print order.artifact ""
      else
        let (result, session) :=
          Delivery.deliver order.artifact (Path.ofString request.out) order.project
            request.fileName (!request.noOverwrite) { disk := host.disk }
        let written := { remarked with disk := session.disk }
        match result with
        | .ok path => { written with stdout := s!"OK. artifact={path.text}\n" }
        | .error fault => written.fail (.delivery fault)

def findingLine (finding : Lint.Finding) : String :=
  let place :=
    match finding.line with
    | some line => s!"line {line}"
    | none => "preamble"
  s!"{finding.kind} {finding.cause.code} ({place}): {finding.cause.message}\n"

def check (path : String) (host : Host) : Outcome :=
  match host.disk.readText (Path.ofString path) with
  | .error fault => host.begin.fail (.reading fault)
  | .ok text =>
      match Lint.artifact? text.toList with
      | none => host.begin.fail .notArtifact
      | some [] =>
          { host.begin with
            stdout := "OK. preamble is a C# comment and a well-formed batch script\n" }
      | some findings =>
          { host.begin with
            exit := .code 1
            stdout := String.join (findings.map findingLine) }

/-- Draft a source, and write or print it. -/
def convert (request : DraftRequest) (host : Host) : Outcome :=
  match Settings.load host.limits.settings host.disk host.home request.settings host.environment with
  | .error fault => host.begin.fail (.settings fault)
  | .ok settings =>
      let report :=
        Drafting.draft host.limits settings request.prompt (!request.windowed) host.reply
      let asked := { host.begin with posts := report.posts, log := report.log }
      match report.result with
      | .error fault => asked.fail (.service fault)
      | .ok source =>
          match request.out.filter (· ≠ "") with
          | none => asked.print source "\n"
          | some out =>
              asked.write (Path.ofString out) (source ++ WideText.plain "\n") s!"OK. source={out}\n"

def Command.run (command : Command) (host : Host) : Outcome :=
  match command with
  | .build request => CommandLine.build request host
  | .check artifact => CommandLine.check artifact host
  | .convert request => CommandLine.convert request host

/-- Answer arguments that ask for no command. -/
def Refusal.answer (refusal : Refusal) (host : Host) : Outcome :=
  match refusal.stop with
  | .help =>
      { host.begin with stdout := paragraph (refusal.usage ++ [""] ++ refusal.details) }
  | .problem problem =>
      { host.begin with
        exit := .code 2
        stderr := paragraph (refusal.usage ++ [s!"{refusal.speaker}: error: {problem.message}"]) }

def run (arguments : List String) (host : Host) : Outcome :=
  match Command.ofArguments arguments with
  | .ok command => command.run host
  | .error refusal => refusal.answer host

end CommandLine

end SelfBuild
