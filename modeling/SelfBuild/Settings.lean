import SelfBuild.Decimal.Reading
import SelfBuild.Disk.TextFile
import SelfBuild.Json.Display
import SelfBuild.Json.Reader

/-!
# Settings

Settings for the drafting service.  Each one comes from the environment if that has it, otherwise
from a settings file, otherwise from a default.  The file is named by the caller or by the
environment.  Waiting time and temperature are turned into numbers; the other settings of a file are
taken as they are.
-/

namespace SelfBuild

structure Settings where
  apiKey : Json.Value := .null
  model : Json.Value := .string "gemini-3-flash-preview"
  apiBase : Json.Value := .string "https://generativelanguage.googleapis.com/v1beta"
  timeout : Json.Value := .float 60
  temperature : Json.Value := .float 0.2

/-- The variables of a process, by name. -/
abbrev Environment := List (String × String)

namespace Settings

def fileVariable : String := "EXEFORGE_CONFIG"

/-- Why a value is no number. -/
inductive NumberFault where
  | unreadable (text : WideText)
  | notANumber (kind : String)
  | tooLarge
deriving DecidableEq, Repr

def NumberFault.message : NumberFault -> String
  | .unreadable text => s!"could not convert string to float: {text.quoted}"
  | .notANumber kind => s!"float() argument must be a string or a real number, not '{kind}'"
  | .tooLarge => "int too large to convert to float"

/-- Why there are no settings. -/
inductive Fault where
  | missing (path : String)
  | malformed (path : String) (fault : Json.Fault)
  | notRecord (path : String)
  | unreadable (fault : Disk.ReadFault)
  | beyondLimits (fault : Json.Fault)
  | number (fault : NumberFault)

def Fault.message : Fault -> String
  | .missing path => s!"Settings file not found: {path}"
  | .malformed path fault => s!"Settings file {path} is not valid JSON: {fault.message}"
  | .notRecord path => s!"Settings file {path} must hold a JSON object"
  | .unreadable fault => fault.message
  | .beyondLimits fault => fault.message
  | .number fault => fault.message

def numberOfText (s : WideText) : Except NumberFault Float :=
  match Decimal.read? s.seen with
  | some x => .ok x
  | none => .error (.unreadable s)

/-- The number nearest to an integer, if there is one. -/
def numberOfInt (n : Int) : Except NumberFault Float :=
  let magnitude := Decimal.toFloat ⟨n.natAbs, 0⟩
  if magnitude.isInf then .error .tooLarge else .ok (Decimal.signed (n < 0) magnitude)

/-- The number that a value denotes; truth values count as zero and one. -/
def number : Json.Value -> Except NumberFault Float
  | .bool b => .ok (if b then 1 else 0)
  | .int n => numberOfInt n
  | .float x => .ok x
  | .string s => numberOfText s
  | value => .error (.notANumber value.kindName)

def readFile (nesting : Json.Nesting) (disk : Disk) (homes : Path.Homes) (path : String) :
    Except Fault Json.Fields :=
  let expanded := Path.ofString (Path.expandHome homes path)
  match disk.isFile expanded with
  | .error fault => .error (.unreadable (.disk fault))
  | .ok false => .error (.missing path)
  | .ok true =>
      match disk.readText expanded with
      | .error fault => .error (.unreadable fault)
      | .ok text =>
          match Json.read nesting text with
          | .ok (.object fields) => .ok fields
          | .ok _ => .error (.notRecord path)
          | .error fault =>
              if fault.isSyntax then .error (.malformed path fault)
              else .error (.beyondLimits fault)

/-- A number among the settings of a file, or its default. -/
def numberOr (default : Json.Value) (fields : Json.Fields) (key : WideText) :
    Except Fault Json.Value :=
  match fields.lookup key with
  | none => .ok default
  | some value =>
      match number value with
      | .ok x => .ok (.float x)
      | .error fault => .error (.number fault)

/-- The settings of a file over some others. -/
def withFields (settings : Settings) (fields : Json.Fields) : Except Fault Settings := do
  let timeout ← numberOr settings.timeout fields "timeout"
  let temperature ← numberOr settings.temperature fields "temperature"
  .ok
    { apiKey := (fields.lookup "api_key").getD settings.apiKey
      model := (fields.lookup "model").getD settings.model
      apiBase := (fields.lookup "api_base").getD settings.apiBase
      timeout := timeout
      temperature := temperature }

def variableNames : List String :=
  [ fileVariable, "GEMINI_API_KEY", "API_KEY", "EXEFORGE_API_BASE", "EXEFORGE_MODEL"
  , "EXEFORGE_TIMEOUT" ]

/-- The value of a variable, where an empty one counts as missing. -/
def given? (environment : Environment) (name : String) : Option String :=
  (environment.lookup name).filter (· ≠ "")

def dropSlashes (s : String) : String :=
  String.ofList (s.toList.reverse.dropWhile (· = '/')).reverse

/-- The settings of the environment over some others. -/
def withEnvironment (settings : Settings) (environment : Environment) : Except Fault Settings := do
  let key? := given? environment "GEMINI_API_KEY" <|> given? environment "API_KEY"
  let base? := (given? environment "EXEFORGE_API_BASE").map dropSlashes
  let timeout ←
    match given? environment "EXEFORGE_TIMEOUT" with
    | none => .ok settings.timeout
    | some text =>
        match numberOfText text with
        | .ok x => .ok (.float x)
        | .error fault => .error (.number fault)
  .ok
    { settings with
      apiKey := (key?.map fun key : String => .string key).getD settings.apiKey
      model :=
        ((given? environment "EXEFORGE_MODEL").map fun model : String => .string model).getD settings.model
      apiBase := (base?.map fun base : String => .string base).getD settings.apiBase
      timeout := timeout }

/-- The settings file in use, if any: the one that the caller names, or the environment's. -/
def file? (path? : Option String) (environment : Environment) : Option String :=
  path?.filter (· ≠ "") <|> given? environment fileVariable

def load (nesting : Json.Nesting) (disk : Disk) (homes : Path.Homes) (path? : Option String)
    (environment : Environment) : Except Fault Settings := do
  let settings ←
    match file? path? environment with
    | none => .ok {}
    | some path =>
        let fields ← readFile nesting disk homes path
        withFields {} fields
  settings.withEnvironment environment

end Settings

end SelfBuild
