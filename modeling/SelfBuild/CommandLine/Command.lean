import SelfBuild.CommandLine.Arguments
import SelfBuild.CommandLine.Usage

/-!
# Commands

The commands of the program and how arguments ask for them.  Options before the command belong to
the program; everything from the command's name on belongs to the command.
-/

namespace SelfBuild

namespace CommandLine

/-- What is to be built, and where it goes. -/
structure BuildRequest where
  request : Option String := none
  name : String := "MyApp"
  version : String := "1.0.0"
  author : String := ""
  copyright : String := ""
  description : String := ""
  architecture : String := "ANYCPU"
  mode : String := "CONSOLE"
  noOptimize : Bool := false
  allowUnsafe : Bool := false
  source : Option String := none
  out : String := "."
  fileName : Option String := none
  noOverwrite : Bool := false
  toStdout : Bool := false
deriving DecidableEq, Repr

/-- What is to be drafted, and where it goes. -/
structure DraftRequest where
  prompt : String
  windowed : Bool := false
  settings : Option String := none
  out : Option String := none
deriving DecidableEq, Repr

inductive Command where
  | build (request : BuildRequest)
  | check (artifact : String)
  | convert (request : DraftRequest)
deriving DecidableEq, Repr

/-- The commands by name, in the order of the help. -/
inductive CommandName where
  | build
  | check
  | convert
deriving DecidableEq, Repr

def CommandName.all : List CommandName :=
  [.build, .check, .convert]

def CommandName.word : CommandName -> String
  | .build => "build"
  | .check => "check"
  | .convert => "convert"

def CommandName.usage : CommandName -> List String
  | .build => buildUsage
  | .check => checkUsage
  | .convert => convertUsage

def CommandName.details : CommandName -> List String
  | .build => buildDetails
  | .check => checkDetails
  | .convert => convertDetails

def valued (name : String) : OptionSpec := ⟨[name], .value⟩

def flagged (name : String) : OptionSpec := ⟨[name], .flag⟩

def CommandName.grammar : CommandName -> Grammar
  | .build =>
      { options :=
          [ helpOption, valued "--request", valued "--name", valued "--version", valued "--author"
          , valued "--copyright", valued "--description", valued "--arch", valued "--mode"
          , flagged "--no-optimize", flagged "--unsafe", valued "--source", valued "--out"
          , valued "--filename", flagged "--no-overwrite", flagged "--stdout" ]
        plain? := none }
  | .check => { options := [helpOption], plain? := some "artifact" }
  | .convert =>
      { options := [helpOption, flagged "--windowed", valued "--config", valued "--out"]
        plain? := some "prompt" }

def CommandName.command (name : CommandName) (reading : Reading) : Command :=
  let value? (option : String) := reading.given.lookup option
  match name with
  | .build =>
      .build
        { request := value? "--request"
          name := (value? "--name").getD "MyApp"
          version := (value? "--version").getD "1.0.0"
          author := (value? "--author").getD ""
          copyright := (value? "--copyright").getD ""
          description := (value? "--description").getD ""
          architecture := (value? "--arch").getD "ANYCPU"
          mode := (value? "--mode").getD "CONSOLE"
          noOptimize := reading.has "--no-optimize"
          allowUnsafe := reading.has "--unsafe"
          source := value? "--source"
          out := (value? "--out").getD "."
          fileName := value? "--filename"
          noOverwrite := reading.has "--no-overwrite"
          toStdout := reading.has "--stdout" }
  | .check => .check (reading.plain?.getD "")
  | .convert =>
      .convert
        { prompt := reading.plain?.getD ""
          windowed := reading.has "--windowed"
          settings := value? "--config"
          out := value? "--out" }

/-- Arguments that ask for no command: the help that they ask for, or what is wrong with them; each
concerns the program or one of its commands. -/
structure Refusal where
  command? : Option CommandName
  stop : Stop
deriving DecidableEq, Repr

def Refusal.speaker (refusal : Refusal) : String :=
  match refusal.command? with
  | none => "exeforge"
  | some command => "exeforge " ++ command.word

def Refusal.usage (refusal : Refusal) : List String :=
  match refusal.command? with
  | none => topUsage
  | some command => command.usage

def Refusal.details (refusal : Refusal) : List String :=
  match refusal.command? with
  | none => topDetails
  | some command => command.details

def topGrammar : Grammar :=
  { options := [helpOption], plain? := none }

/-- Find the command among classified arguments: the arguments before it that nothing asks for, its
name, and its own arguments. -/
def findCommand : List (String × Mark) -> List String ->
    Except Refusal (List String × CommandName × List String)
  | [], _ => .error ⟨none, .problem (.required "command")⟩
  | (argument, .unknown) :: rest, extras => findCommand rest (extras ++ [argument])
  | (_, .option spelled) :: _, _ =>
      match spelled.attached? with
      | none => .error ⟨none, .help⟩
      | some text => .error ⟨none, attachedStop spelled text⟩
  | (argument, .plain) :: rest, extras =>
      match CommandName.all.find? fun name => name.word = argument with
      | some name => .ok (extras, name, rest.map Prod.fst)
      | none =>
          .error ⟨none, .problem (.unknownCommand argument (CommandName.all.map CommandName.word))⟩
  | (argument, .dashes) :: rest, _ =>
      match rest with
      | [] => .error ⟨none, .problem (.required "command")⟩
      | _ =>
          .error ⟨none, .problem (.unknownCommand argument (CommandName.all.map CommandName.word))⟩

def Command.ofArguments (arguments : List String) : Except Refusal Command :=
  match topGrammar.classifyAll arguments with
  | .error problem => .error ⟨none, .problem problem⟩
  | .ok marks =>
      match findCommand marks [] with
      | .error refusal => .error refusal
      | .ok (extras, name, own) =>
          match name.grammar.read own with
          | .error stop => .error ⟨some name, stop⟩
          | .ok reading =>
              match extras ++ reading.extras with
              | [] => .ok (name.command reading)
              | unrecognized => .error ⟨none, .problem (.unrecognized unrecognized)⟩

end CommandLine

end SelfBuild
