import SelfBuild.Text.CharClass
import SelfBuild.Text.Quoted

/-!
# Arguments

Reading arguments against a grammar of options and at most one plain argument.

Arguments are classified first, each by itself: options by their full names, by an equals sign, or
by a beginning that fits one name only; what starts with a hyphen is still plain when it is a hyphen
alone, a negative number, or holds a space; and all is plain after two hyphens.  Then one pass takes
them in order.  Arguments that nothing asks for are collected and reported by the caller.
-/

namespace SelfBuild

namespace CommandLine

/-- What an option does with the argument after it. -/
inductive Arity where
  | help
  | flag
  | value
deriving DecidableEq, Repr

structure OptionSpec where
  names : List String
  arity : Arity
deriving DecidableEq, Repr

def helpOption : OptionSpec :=
  ⟨["-h", "--help"], .help⟩

/-- A set of options, with the name of a plain argument if the command needs one. -/
structure Grammar where
  options : List OptionSpec
  plain? : Option String

/-- An argument that names an option: under which name, and with what is attached to it.  The
attached text follows an equals sign or, for a short name, may follow directly. -/
structure Spelled where
  option : OptionSpec
  name : String
  attached? : Option String
deriving DecidableEq, Repr

/-- What an argument is. -/
inductive Mark where
  | plain
  | dashes
  | option (spelled : Spelled)
  | unknown
deriving DecidableEq, Repr

/-- Why arguments are not accepted. -/
inductive Problem where
  | ambiguous (argument : String) (names : List String)
  | ignoredText (names : List String) (text : String)
  | missingValue (names : List String)
  | required (name : String)
  | unknownCommand (given : String) (commands : List String)
  | unrecognized (arguments : List String)
deriving DecidableEq, Repr

def Problem.message : Problem -> String
  | .ambiguous argument names =>
      let shown := ", ".intercalate names
      s!"ambiguous option: {argument} could match {shown}"
  | .ignoredText names text =>
      let shown := "/".intercalate names
      s!"argument {shown}: ignored explicit argument {Text.quoted text}"
  | .missingValue names =>
      let shown := "/".intercalate names
      s!"argument {shown}: expected one argument"
  | .required name => s!"the following arguments are required: {name}"
  | .unknownCommand given commands =>
      let shown := ", ".intercalate (commands.map Text.quoted)
      s!"argument command: invalid choice: {Text.quoted given} (choose from {shown})"
  | .unrecognized arguments =>
      let shown := " ".intercalate arguments
      s!"unrecognized arguments: {shown}"

/-- Why reading arguments ends early. -/
inductive Stop where
  | help
  | problem (problem : Problem)
deriving DecidableEq, Repr

/-- The option with exactly this name. -/
def Grammar.named? (grammar : Grammar) (name : String) : Option OptionSpec :=
  grammar.options.find? fun option => option.names.contains name

/-- The parts of an argument before and after its first equals sign. -/
def atSign (argument : String) : String × Option String :=
  let (before, rest) := argument.toList.span (· ≠ '=')
  match rest with
  | [] => (argument, none)
  | _ :: text => (String.ofList before, some (String.ofList text))

/-- All names with their options, in order. -/
def Grammar.names (grammar : Grammar) : List (OptionSpec × String) :=
  grammar.options.flatMap fun option => option.names.map fun name => (option, name)

/-- The readings of an argument that is no full name. -/
def Grammar.readings (grammar : Grammar) (argument : String) : List Spelled :=
  match argument.toList with
  | '-' :: '-' :: _ =>
      let (start, text?) := atSign argument
      grammar.names.filterMap fun (option, name) =>
        if start.toList.isPrefixOf name.toList then some ⟨option, name, text?⟩ else none
  | first :: second :: rest =>
      grammar.names.filterMap fun (option, name) =>
        if name.toList = [first, second] then some ⟨option, name, some (String.ofList rest)⟩
        else none
  | _ => []

/-- Whether an argument is a negative number: digits, or digits around a point, the last of which
are not missing. -/
def isNegativeNumber (argument : String) : Bool :=
  let isDigit (c : Char) := (Text.digitValue? c).isSome
  let body := argument.toList.drop 1
  let body := if body.getLast? = some '\n' then body.dropLast else body
  let fraction := (body.dropWhile isDigit).drop 1
  if body.dropWhile isDigit = [] then body ≠ []
  else (body.dropWhile isDigit).head? = some '.' && fraction ≠ [] && fraction.all isDigit

def Grammar.classify (grammar : Grammar) (argument : String) : Except Problem Mark :=
  if argument.toList.head? ≠ some '-' then .ok .plain
  else
    match grammar.named? argument with
    | some option => .ok (.option ⟨option, argument, none⟩)
    | none =>
        if argument = "-" then .ok .plain
        else
          let (name, text?) := atSign argument
          match text?, grammar.named? name with
          | some text, some option => .ok (.option ⟨option, name, some text⟩)
          | _, _ =>
              match grammar.readings argument with
              | [spelled] => .ok (.option spelled)
              | [] =>
                  if isNegativeNumber argument || argument.toList.contains ' ' then .ok .plain
                  else .ok .unknown
              | several => .error (.ambiguous argument (several.map Spelled.name))

def Grammar.classifyAll (grammar : Grammar) : List String -> Except Problem (List (String × Mark))
  | [] => .ok []
  | argument :: rest =>
      if argument = "--" then .ok ((argument, .dashes) :: rest.map fun other => (other, .plain))
      else do
        let mark ← grammar.classify argument
        let marks ← grammar.classifyAll rest
        .ok ((argument, mark) :: marks)

/-- What the arguments say. -/
structure Reading where
  given : List (String × String) := []
  plain? : Option String := none
  extras : List String := []
deriving DecidableEq, Repr

def Reading.note (reading : Reading) (option : OptionSpec) (value : String) : Reading :=
  { reading with given := (option.names.getLast?.getD "", value) :: reading.given }

def Reading.has (reading : Reading) (name : String) : Bool :=
  (reading.given.lookup name).isSome

/-- What the help option does with a text attached to it.  Its short name may be repeated in one
argument, and all else is refused. -/
def helpWith (names : List String) : List Char -> Stop
  | ['h'] => .help
  | 'h' :: text => helpWith names text
  | text => .problem (.ignoredText names (String.ofList text))

def attachedStop (spelled : Spelled) (text : String) : Stop :=
  if spelled.option.arity = .help && spelled.name.toList.take 2 ≠ ['-', '-'] then
    helpWith spelled.option.names text.toList
  else .problem (.ignoredText spelled.option.names text)

/-- Take classified arguments in order. -/
def Grammar.take (grammar : Grammar) : List (String × Mark) -> Reading -> Except Stop Reading
  | [], reading => .ok reading
  | (argument, .unknown) :: rest, reading =>
      grammar.take rest { reading with extras := reading.extras ++ [argument] }
  | (_, .option spelled) :: rest, reading =>
      match spelled.option.arity, spelled.attached? with
      | .value, some text => grammar.take rest (reading.note spelled.option text)
      | _, some text => .error (attachedStop spelled text)
      | .help, none => .error .help
      | .flag, none => grammar.take rest (reading.note spelled.option "")
      | .value, none =>
          match rest with
          | (value, .plain) :: rest => grammar.take rest (reading.note spelled.option value)
          | _ => .error (.problem (.missingValue spelled.option.names))
  | (argument, .plain) :: rest, reading =>
      if grammar.plain?.isSome && reading.plain?.isNone then
        let reading := { reading with plain? := some argument }
        match rest with
        | (_, .dashes) :: rest => grammar.take rest reading
        | rest => grammar.take rest reading
      else grammar.take rest { reading with extras := reading.extras ++ [argument] }
  | (argument, .dashes) :: rest, reading =>
      if grammar.plain?.isSome && reading.plain?.isNone then
        match rest with
        | (value, .plain) :: rest => grammar.take rest { reading with plain? := some value }
        | rest => grammar.take rest { reading with extras := reading.extras ++ [argument] }
      else grammar.take rest { reading with extras := reading.extras ++ [argument] }

/-- Read arguments against a grammar. -/
def Grammar.read (grammar : Grammar) (arguments : List String) : Except Stop Reading :=
  match grammar.classifyAll arguments with
  | .error problem => .error (.problem problem)
  | .ok marks =>
      match grammar.take marks {} with
      | .error stop => .error stop
      | .ok reading =>
          match grammar.plain?, reading.plain? with
          | some name, none => .error (.problem (.required name))
          | _, _ => .ok reading

end CommandLine

end SelfBuild
