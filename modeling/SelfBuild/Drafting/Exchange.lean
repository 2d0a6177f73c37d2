import SelfBuild.Drafting.Fences
import SelfBuild.Drafting.Reply
import SelfBuild.Log
import SelfBuild.Settings

/-!
# Exchanges with the drafting service

Drafting a program from a description, and reviewing one.  Each exchange sends at most one post, so
it is given the one reply that it may need, and it answers with its result, the posts that it sent,
and the lines that it logged.  Without a key nothing is sent; once a key is there, a failed request
only changes what the result is, unless the reader gives up on the answer.  What comes back need not be a
plain text.
-/

namespace SelfBuild

namespace Drafting

/-- The result of an exchange, with what it sent and logged. -/
structure Report (α : Type) where
  result : α
  posts : List Post := []
  log : List Log.Line := []

/-- What is asked of the service, beside the prompt. -/
structure Prompting where
  system : Option String := none
  temperature : Json.Value := .null
  mimeType : Option String := none

/-- A text with the role or system that it stands for. -/
def textParts (text : WideText) : Json.Value :=
  .array [.object [("text", .string text)]]

/-- The body of a post; an empty instruction or type is left out. -/
def body (prompt : WideText) (prompting : Prompting) : Json.Value :=
  let contents : Json.Fields :=
    [("contents", .array [.object [("role", .string "user"), ("parts", textParts prompt)]])]
  let system : Json.Fields :=
    match prompting.system.filter (· ≠ "") with
    | some text => [("systemInstruction", .object [("parts", textParts text)])]
    | none => []
  let temperature : Json.Fields :=
    match prompting.temperature with
    | .null => []
    | value => [("temperature", value)]
  let mimeType : Json.Fields :=
    match prompting.mimeType.filter (· ≠ "") with
    | some type => [("responseMimeType", .string type)]
    | none => []
  let generation := temperature ++ mimeType
  let settings : Json.Fields :=
    if generation.isEmpty then [] else [("generationConfig", .object generation)]
  .object (contents ++ system ++ settings)

/-- The address of a post.  Settings that were read from a file can always be shown in it. -/
def url (settings : Settings) : WideText :=
  settings.apiBase.text ++ WideText.plain "/models/" ++ settings.model.text ++
    WideText.plain ":generateContent"

def generate (limits : Json.Limits) (settings : Settings) (prompt : WideText)
    (prompting : Prompting) (reply : Reply) : Report (Except Fault WideText) :=
  if settings.apiKey.isPresent then
    let post : Post :=
      { url := url settings
        body := body prompt prompting
        key := settings.apiKey
        timeout := settings.timeout }
    { result := reply.text limits.reply post.url, posts := [post] }
  else { result := .error .noKey }

def instruction : String :=
  "\n".intercalate
    [ "You are a senior C# backend developer. Translate the user's input"
    , "(pseudo code, Python, JavaScript or plain text) into valid, compilable C# code."
    , ""
    , "RULES:"
    , "1. The output must be a complete C# file (using statements, namespace, class Program, " ++
        "Main method)."
    , "2. Do NOT use external NuGet packages. Only standard .NET System libraries (System, " ++
        "System.IO, System.Net, ...)."
    , "3. The code must be compatible with .NET Framework 4.5+."
    , "4. For a console application use Console.WriteLine/ReadLine. For a windowed application " ++
        "use MessageBox.Show (System.Windows.Forms)."
    , "5. Answer ONLY with the code, no markdown backticks." ]

/-- The program that stands in for a draft that failed. -/
def fallbackProgram : String :=
  "\n".intercalate
    [ "// Code generation failed."
    , "// Please enter C# code manually."
    , ""
    , "using System;"
    , "class Program \x7b"
    , "    static void Main() \x7b"
    , "        Console.WriteLine(\"Error generating code.\");"
    , "        Console.ReadLine();"
    , "    \x7d"
    , "\x7d" ]

def draftPrompt (description : WideText) (console : Bool) : WideText :=
  let kind := if console then "Console application" else "Windows Forms application (GUI)"
  let ending :=
    "\".\n" ++ "App type: " ++ kind ++ ".\n\n" ++
      "IMPORTANT: return the plain C# code, ready for the compiler."
  WideText.plain "Context: create a C# file for this requirement: \"" ++ description ++
    WideText.plain ending

def draft (limits : Json.Limits) (settings : Settings) (description : WideText) (console : Bool)
    (reply : Reply) : Report (Except Fault WideText) :=
  if settings.apiKey.isPresent then
    let prompting : Prompting :=
      { system := some instruction, temperature := settings.temperature }
    let report := generate limits settings (draftPrompt description console) prompting reply
    match report.result with
    | .ok text => { report with result := .ok (codeOf text) }
    | .error (.beyondLimits fault) => { report with result := .error (.beyondLimits fault) }
    | .error fault =>
        { report with
          result := .ok fallbackProgram
          log := [⟨.warning, s!"C# conversion failed: {fault.message}"⟩] }
  else { result := .error .noKey }

/-- What a review says of a program. -/
structure Review where
  corrected : WideText
  analysis : WideText
deriving DecidableEq, Repr

/-- The analysis of a review that failed; the program is kept as it was. -/
def failedAnalysis : String :=
  "AI validation failed. Original code kept."

/-- Why there is no review at all. -/
inductive ReviewFault where
  | noKey
  | beyondLimits (fault : Json.Fault)
deriving DecidableEq, Repr

def ReviewFault.message : ReviewFault -> String
  | .noKey => Fault.noKey.message
  | .beyondLimits fault => fault.message

def reviewPrompt (source : WideText) : WideText :=
  let opening :=
    "Analyse the following C# code for compile errors and security problems.\n" ++
      "Fix the errors so it compiles with csc.exe (Microsoft .NET compiler).\n\n" ++
      "Code:\n"
  let ending :=
    "\n\n" ++ "Answer in JSON format:\n" ++
      "\x7b\n" ++
      "  \"analysis\": \"Short summary of what was changed\",\n" ++
      "  \"correctedCode\": \"The complete corrected code as a string\"\n" ++
      "\x7d"
  WideText.plain opening ++ source ++ WideText.plain ending

/-- The program that a review's answer puts forward, unless it is blank. -/
def correction? (value : Json.Value) : Option WideText :=
  match value.get? "correctedCode" with
  | some (.string code) => if Text.allBlank code.toList then none else some code
  | _ => none

def analysisOf (value : Json.Value) : WideText :=
  match value.get? "analysis" with
  | some (.string text) => text
  | _ => ""

def review (limits : Json.Limits) (settings : Settings) (source : WideText) (reply : Reply) :
    Report (Except ReviewFault Review) :=
  if settings.apiKey.isPresent then
    let prompting : Prompting := { mimeType := some "application/json" }
    let report := generate limits settings (reviewPrompt source) prompting reply
    let failed (reason : String) : Report (Except ReviewFault Review) :=
      { result := .ok ⟨source, failedAnalysis⟩
        posts := report.posts
        log := [⟨.warning, s!"C# validation failed: {reason}"⟩] }
    let broken (fault : Json.Fault) : Report (Except ReviewFault Review) :=
      { result := .error (.beyondLimits fault), posts := report.posts }
    match report.result with
    | .error (.beyondLimits fault) => broken fault
    | .error fault => failed fault.message
    | .ok text =>
        match Json.read limits.review text with
        | .error fault =>
            if fault.isSyntax then failed fault.message else broken fault
        | .ok value =>
            match correction? value with
            | none => failed "reply has no usable correctedCode"
            | some code => { result := .ok ⟨code, analysisOf value⟩, posts := report.posts }
  else { result := .error .noKey }

end Drafting

end SelfBuild
