import SelfBuild.Build
import SelfBuild.Disk.TextFile
import SelfBuild.Json.Reader
import SelfBuild.Request.Schema

/-!
# Build requests

A request is a JSON record of a project, its options and possibly a source.  A value that violates
the shape of requests is rejected for one of its violations: one with the shortest path, of these
one with the greatest path, and of these the first in the report.
-/

namespace SelfBuild

namespace Request

def Violation.outranks (a b : Violation) : Bool :=
  a.path.length < b.path.length || (a.path.length = b.path.length && b.path < a.path)

/-- The violation that stands for all of them.  This is the documented choice of the best match among
the errors of a schema: the one that lies least deep, then the one with the greatest path, then the
first that was reported. -/
def chosen? : List Violation -> Option Violation
  | [] => none
  | first :: rest => some (rest.foldl (fun best v => if v.outranks best then v else best) first)

/-- Why a request cannot be used. -/
inductive Rejection where
  | violation (v : Violation)
  | malformed (path : Path) (fault : Json.Fault)

def Rejection.code : Rejection -> String
  | .violation _ => "EXF-REQ-0001"
  | .malformed .. => "EXF-REQ-0002"

def Rejection.place : Rejection -> String
  | .violation v => "/".intercalate v.path
  | .malformed .. => ""

def Rejection.message : Rejection -> String
  | .violation v =>
      let place := "/".intercalate v.path
      let shown := if place = "" then "<root>" else place
      s!"Invalid build request at '{shown}': {v.cause.message}"
  | .malformed path fault => s!"Build request {path.text} is not valid JSON: {fault.message}"

/-- Accept a value as a request, or reject it. -/
def validate (value : Json.Value) : Except Rejection Unit :=
  match chosen? (violations value) with
  | none => .ok ()
  | some v => .error (.violation v)

/-- Why a report of all violations cannot be made.  It shows what each of them found, so one value that
cannot be shown spoils the report. -/
def unshowable? (nesting : Json.Nesting) (value : Json.Value) : Option Json.ShowFault :=
  (violations value).findSome? fun v => v.cause.showFault? nesting

/-- Why no order comes of a request. -/
inductive Fault where
  | rejected (rejection : Rejection)
  | badOption (fault : Options.Fault)

def Fault.message : Fault -> String
  | .rejected rejection => rejection.message
  | .badOption fault => fault.message

def section? (value : Json.Value) (key : String) : Json.Fields :=
  match value.get? key with
  | some (.object fields) => fields
  | _ => []

/-- The order that a request describes.  A source given beside the request goes before the one in
it. -/
def toOrder (nesting : Json.Nesting) (value : Json.Value) (source? : Option WideText) :
    Except Fault Order :=
  match validate value with
  | .error rejection => .error (.rejected rejection)
  | .ok _ =>
      let own :=
        match value.get? "sourceCode" with
        | some (.string source) => source
        | _ => Project.sampleProgram
      match Options.ofRecord nesting (section? value "config") with
      | .error fault => .error (.badOption fault)
      | .ok options =>
          .ok
            { metadata := Metadata.ofRecord (section? value "metadata")
              options := options
              source := source?.getD own }

/-- Why no value can be read from a request's file. -/
inductive LoadFault where
  | unreadable (fault : Disk.ReadFault)
  | rejected (rejection : Rejection)
  | beyondLimits (fault : Json.Fault)

def LoadFault.message : LoadFault -> String
  | .unreadable fault => fault.message
  | .rejected rejection => rejection.message
  | .beyondLimits fault => fault.message

def load (nesting : Json.Nesting) (disk : Disk) (path : Path) : Except LoadFault Json.Value :=
  match disk.readText path with
  | .error fault => .error (.unreadable fault)
  | .ok text =>
      match Json.read nesting text with
      | .ok value => .ok value
      | .error fault =>
          if fault.isSyntax then .error (.rejected (.malformed path fault))
          else .error (.beyondLimits fault)

end Request

end SelfBuild
