import SelfBuild.Project
import SelfBuild.Text.Blank
import SelfBuild.Text.Case

/-!
# Build options

The four choices that a build leaves to the user.  Options come from records, forms and command
lines, where a choice may be given as a word in any case with blanks around it; `Raw.coerce` turns
what was given into options or names the first choice that means nothing.  Naming it shows the value
that was given for it, and a value that cannot be shown is a fault of its own.
-/

namespace SelfBuild

/-- The machine that the program is built for. -/
inductive Architecture where
  | anyCpu
  | x64
  | x86
deriving DecidableEq, Repr

/-- What kind of program comes out. -/
inductive OutputKind where
  | console
  | windowed
deriving DecidableEq, Repr

def Architecture.word : Architecture -> String
  | .anyCpu => "ANYCPU"
  | .x64 => "X64"
  | .x86 => "X86"

def Architecture.all : List Architecture :=
  [.anyCpu, .x64, .x86]

def OutputKind.word : OutputKind -> String
  | .console => "CONSOLE"
  | .windowed => "WINDOWED"

def OutputKind.all : List OutputKind :=
  [.console, .windowed]

structure Options where
  architecture : Architecture := .anyCpu
  output : OutputKind := .console
  optimize : Bool := true
  allowUnsafe : Bool := false
deriving DecidableEq, Repr

namespace Options

/-- The choices, in the order in which they are checked. -/
inductive Choice where
  | architecture
  | output
  | optimize
  | allowUnsafe
deriving DecidableEq, Repr

/-- The name of a choice in messages, which is also its first key in a record. -/
def Choice.name : Choice -> String
  | .architecture => "target_architecture"
  | .output => "output_type"
  | .optimize => "enable_optimization"
  | .allowUnsafe => "allow_unsafe"

def Choice.key : Choice -> String
  | .architecture => "architecture"
  | .output => "outputType"
  | .optimize => "enableOptimization"
  | .allowUnsafe => "allowUnsafe"

def Choice.code : Choice -> String
  | .architecture => "EXF-CFG-0001"
  | .output => "EXF-CFG-0002"
  | .optimize => "EXF-CFG-0003"
  | .allowUnsafe => "EXF-CFG-0003"

def Choice.expectation : Choice -> String
  | .architecture => "one of: " ++ ", ".intercalate (Architecture.all.map Architecture.word)
  | .output => "one of: " ++ ", ".intercalate (OutputKind.all.map OutputKind.word)
  | .optimize => "a boolean"
  | .allowUnsafe => "a boolean"

/-- A value that means nothing for its choice. -/
structure Mismatch where
  choice : Choice
  given : Json.Value

def Mismatch.message (mismatch : Mismatch) : String :=
  s!"Invalid {mismatch.choice.name} {mismatch.given.display}; " ++
    s!"expected {mismatch.choice.expectation}"

/-- Why no options come of what was given: a value means nothing, or it means nothing and cannot be
shown either. -/
inductive Fault where
  | mismatch (given : Mismatch)
  | unshowable (fault : Json.ShowFault)

def Fault.message : Fault -> String
  | .mismatch given => given.message
  | .unshowable fault => fault.message

/-- Whether nothing is known of the value because showing it was given up. -/
def Fault.isExhaustion : Fault -> Bool
  | .mismatch _ => false
  | .unshowable fault => fault.isExhaustion

/-- Report a mismatch, which shows the value. -/
def Mismatch.report (nesting : Json.Nesting) (mismatch : Mismatch) : Fault :=
  match mismatch.given.showFault? nesting with
  | none => .mismatch mismatch
  | some fault => .unshowable fault

/-- The one of several members whose word a text spells, in any case and with blanks around. -/
def member? (members : List α) (word : α -> String) (s : WideText) : Option α :=
  let token := Text.capitals (Text.trim s.toList)
  members.find? fun member => (word member).toList == token

def yesWords : List String := ["true", "on", "yes", "1"]

/-- Words for no; an empty text is one of them. -/
def noWords : List String := ["false", "off", "no", "0", ""]

/-- The truth value that a text spells, in any case and with blanks around. -/
def flag? (s : WideText) : Option Bool :=
  let token := String.ofList (Text.lower (Text.trim s.toList))
  if yesWords.contains token then some true
  else if noWords.contains token then some false
  else none

/-- Options as they are given, one value for each choice. -/
structure Raw where
  architecture : Json.Value := .string "ANYCPU"
  output : Json.Value := .string "CONSOLE"
  optimize : Json.Value := .bool true
  allowUnsafe : Json.Value := .bool false

def coerceMember (choice : Choice) (members : List α) (word : α -> String) :
    Json.Value -> Except Mismatch α
  | .string s =>
      match member? members word s with
      | some member => .ok member
      | none => .error ⟨choice, .string s⟩
  | value => .error ⟨choice, value⟩

def coerceFlag (choice : Choice) : Json.Value -> Except Mismatch Bool
  | .bool b => .ok b
  | .string s =>
      match flag? s with
      | some b => .ok b
      | none => .error ⟨choice, .string s⟩
  | value => .error ⟨choice, value⟩

/-- The options that were meant, or the first choice that cannot be understood. -/
def Raw.resolve (raw : Raw) : Except Mismatch Options := do
  let architecture ← coerceMember .architecture Architecture.all Architecture.word raw.architecture
  let output ← coerceMember .output OutputKind.all OutputKind.word raw.output
  let optimize ← coerceFlag .optimize raw.optimize
  let allowUnsafe ← coerceFlag .allowUnsafe raw.allowUnsafe
  .ok ⟨architecture, output, optimize, allowUnsafe⟩

def Raw.coerce (nesting : Json.Nesting) (raw : Raw) : Except Fault Options :=
  raw.resolve.mapError (Mismatch.report nesting)

/-- The values that a record gives; the name of a choice goes before its key in requests. -/
def Raw.ofRecord (fields : Json.Fields) : Raw :=
  let given (choice : Choice) (default : Json.Value) : Json.Value :=
    (fields.pick? [choice.name, choice.key]).getD default
  { architecture := given .architecture (.string "ANYCPU")
    output := given .output (.string "CONSOLE")
    optimize := given .optimize (.bool true)
    allowUnsafe := given .allowUnsafe (.bool false) }

def ofRecord (nesting : Json.Nesting) (fields : Json.Fields) : Except Fault Options :=
  (Raw.ofRecord fields).coerce nesting

def toRecord (options : Options) : Json.Fields :=
  [ (Choice.architecture.key, .string options.architecture.word)
  , (Choice.output.key, .string options.output.word)
  , (Choice.optimize.key, .bool options.optimize)
  , (Choice.allowUnsafe.key, .bool options.allowUnsafe) ]

def isConsole (options : Options) : Bool :=
  options.output == .console

end Options

end SelfBuild
