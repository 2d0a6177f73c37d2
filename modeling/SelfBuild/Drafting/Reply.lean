import SelfBuild.Json.Reader

/-!
# Replies of the drafting service

A post is answered or fails on the way.  The answer's text, if there is one, is put together from
the parts of the first candidate that has parts.
-/

namespace SelfBuild

namespace Drafting

/-- What comes back for a post. -/
inductive Reply where
  | failed (reason : String)
  | answered (status : Int) (reason body : String)
deriving DecidableEq, Repr

/-- A request to the service. -/
structure Post where
  url : WideText
  body : Json.Value
  key : Json.Value
  timeout : Json.Value

/-- Why the service yields no text. -/
inductive Fault where
  | noKey
  | requestFailed (reason : String)
  | unexpectedReply (kind : String)
  | candidatesNoList
  | noText
  | beyondLimits (fault : Json.Fault)
deriving DecidableEq, Repr

def Fault.message : Fault -> String
  | .noKey => "API key is not defined (set GEMINI_API_KEY or API_KEY)"
  | .requestFailed reason => s!"generateContent request failed: {reason}"
  | .unexpectedReply kind => s!"Unexpected reply type from AI: {kind}"
  | .candidatesNoList => "Malformed AI reply: 'candidates' is not a list"
  | .noText => "No response text from AI"
  | .beyondLimits fault => fault.message

/-- The value of a field, where one that does not count as present is no value. -/
def present? (value : Json.Value) (key : WideText) : Option Json.Value :=
  (value.get? key).filter Json.Value.isPresent

/-- The parts of a candidate's content, if it has any. -/
def partsOf? (candidate : Json.Value) : Option (List Json.Value) :=
  match candidate.get? "content" with
  | some content =>
      match present? content "parts" with
      | some (.array parts) => some parts
      | _ => none
  | none => none

/-- The text of a part; other things have none. -/
def partText (part : Json.Value) : WideText :=
  match part.get? "text" with
  | some (.string text) => text
  | _ => ""

def textOf (candidates : List Json.Value) : WideText :=
  WideText.join (((candidates.findSome? partsOf?).getD []).map partText)

def candidateText (value : Json.Value) : Except Fault WideText :=
  match value with
  | .object _ =>
      match (present? value "candidates").getD (.array []) with
      | .array candidates =>
          let text := textOf candidates
          if text = "" then .error .noText else .ok text
      | _ => .error .candidatesNoList
  | _ => .error (.unexpectedReply value.kindName)

/-- What is wrong with a status, if anything. -/
def statusFault? (status : Int) (reason url : String) : Option String :=
  if 400 ≤ status && status < 500 then
    some s!"{status} Client Error: {reason} for url: {url}"
  else if 500 ≤ status && status < 600 then
    some s!"{status} Server Error: {reason} for url: {url}"
  else none

def Reply.text (nesting : Json.Nesting) (reply : Reply) (url : WideText) :
    Except Fault WideText :=
  match reply with
  | .failed reason => .error (.requestFailed reason)
  | .answered status reason body =>
      match statusFault? status reason url.shown with
      | some fault => .error (.requestFailed fault)
      | none =>
          match Json.read nesting body with
          | .ok value => candidateText value
          | .error fault =>
              if fault.isExhaustion then .error (.beyondLimits fault)
              else .error (.requestFailed fault.message)

end Drafting

end SelfBuild
