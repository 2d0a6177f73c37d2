import SelfBuild.Json.Display
import SelfBuild.Options

/-!
# The shape of build requests

A shape is a check that reports every violation in a value with the path of keys that leads there.
A record reports on itself before it reports on its fields.
-/

namespace SelfBuild

namespace Request

/-- How a value violates its shape. -/
inductive Cause where
  | notOfType (given : Json.Value) (type : String)
  | missing (key : String)
  | unexpected (keys : List WideText)
  | notOneOf (given : Json.Value) (words : List String)

structure Violation where
  path : List String
  cause : Cause

def Cause.message : Cause -> String
  | .notOfType given type => s!"{given.display} is not of type {Text.quoted type}"
  | .missing key => s!"{Text.quoted key} is a required property"
  | .unexpected keys =>
      let shown := ", ".intercalate (keys.map WideText.quoted)
      let verb := if keys.length = 1 then "was" else "were"
      s!"Additional properties are not allowed ({shown} {verb} unexpected)"
  | .notOneOf given words =>
      let shown := Json.Value.array (words.map fun word : String => .string word)
      s!"{given.display} is not one of {shown.display}"

/-- Why the message of a cause cannot be made, if it cannot. -/
def Cause.showFault? (nesting : Json.Nesting) : Cause -> Option Json.ShowFault
  | .notOfType given _ => given.showFault? nesting
  | .missing _ => none
  | .unexpected _ => none
  | .notOneOf given _ => given.showFault? nesting

abbrev Shape := List String -> Json.Value -> List Violation

def textShape : Shape
  | _, .string _ => []
  | path, given => [⟨path, .notOfType given "string"⟩]

def flagShape : Shape
  | _, .bool _ => []
  | path, given => [⟨path, .notOfType given "boolean"⟩]

/-- One of several words, exactly as written. -/
def wordShape (words : List String) : Shape := fun path given =>
  match given with
  | .string s => if (words.map WideText.plain).contains s then [] else [⟨path, .notOneOf given words⟩]
  | _ => [⟨path, .notOneOf given words⟩]

/-- The keys of a record that its shape does not know, sorted. -/
def unknownKeys (known : List String) (fields : Json.Fields) : List WideText :=
  ((fields.map Prod.fst).filter fun key => !(known.map WideText.plain).contains key).mergeSort
    fun a b => !(b.codes < a.codes)

/-- A record with some required keys, and no keys but those of its fields. -/
def recordShape (required : List String) (shapes : List (String × Shape)) : Shape :=
  fun path given =>
    match given with
    | .object fields =>
        let absent := required.filter fun key : String => (Json.Fields.lookup fields key).isNone
        let extra := unknownKeys (shapes.map Prod.fst) fields
        absent.map (fun key => ⟨path, .missing key⟩) ++
          (if extra = [] then [] else [⟨path, .unexpected extra⟩]) ++
          shapes.flatMap fun (key, shape) =>
            match Json.Fields.lookup fields key with
            | some value => shape (path ++ [key]) value
            | none => []
    | _ => [⟨path, .notOfType given "object"⟩]

def projectShape : Shape :=
  recordShape ["projectName"]
    [ ("projectName", textShape)
    , ("version", textShape)
    , ("author", textShape)
    , ("copyright", textShape)
    , ("description", textShape) ]

def optionsShape : Shape :=
  recordShape (["architecture", "outputType", "enableOptimization", "allowUnsafe"])
    [ ("architecture", wordShape (Architecture.all.map Architecture.word))
    , ("outputType", wordShape (OutputKind.all.map OutputKind.word))
    , ("enableOptimization", flagShape)
    , ("allowUnsafe", flagShape) ]

def requestShape : Shape :=
  recordShape ["metadata", "config"]
    [ ("metadata", projectShape)
    , ("config", optionsShape)
    , ("sourceCode", textShape) ]

/-- All violations in a value, in the order of the report. -/
def violations (value : Json.Value) : List Violation :=
  requestShape [] value

end Request

end SelfBuild
