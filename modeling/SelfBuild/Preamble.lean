import SelfBuild.Switches
import SelfBuild.Text.Lines

/-!
# Preambles

The batch script at the head of an artifact, wrapped in a block comment of the compiled language.

The command interpreter runs the script line by line and leaves it before the closing line; the
compiler skips all of it as one comment.  The script looks for the compiler under some roots, calls
it on the very file that holds the script, and removes that file once the program exists.
-/

namespace SelfBuild

namespace Preamble

def commentOpen : List Char := ['/', '*']

def commentClose : List Char := ['*', '/']

/-- The script's own file, quoted. -/
def selfReference : List Char := "\"%~f0\"".toList

/-- The characters with a meaning of their own on a command line. -/
def isMeta (c : Char) : Bool :=
  c = '^' || c = '&' || c = '|' || c = '<' || c = '>' || c = '(' || c = ')'

/-- Put a caret before each character that the interpreter would act on. -/
def escapeEcho (s : List Char) : List Char :=
  s.flatMap fun c => if isMeta c then ['^', c] else [c]

/-- Where the compiler is looked for; within a root, the last version found counts. -/
def standardRoots : List (List Char) :=
  ["%windir%\\Microsoft.NET\\Framework64".toList, "%windir%\\Microsoft.NET\\Framework".toList]

/-- The first line, which the interpreter fails to run and says nothing about. -/
def openLine : List Char :=
  commentOpen ++ " 2>NUL".toList

/-- The head of a loop over the versions under a root, indented by `pad`. -/
def versionsLine (pad root : List Char) : List Char :=
  pad ++ "for /d %%i in (".toList ++ root ++ "\\v*) do (".toList

/-- The rest of such a loop, which keeps the last version that has a compiler. -/
def loopRest (pad : List Char) : List (List Char) :=
  [ pad ++ "    if exist \"%%i\\csc.exe\" set \"CSC=%%i\\csc.exe\"".toList
  , pad ++ ")".toList ]

/-- A loop over the versions under a root. -/
def searchLoop (pad root : List Char) : List (List Char) :=
  versionsLine pad root :: loopRest pad

/-- The head of a block for a compiler that is still missing. -/
def missingLine : List Char := "if not defined CSC (".toList

def blockEnd : List Char := ")".toList

def indent : List Char := "    ".toList

/-- A root that is searched only if none before it had a compiler. -/
def laterRoot (root : List Char) : List (List Char) :=
  missingLine :: (searchLoop indent root ++ [blockEnd])

/-- The line that forgets any compiler found before. -/
def forgetLine : List Char := "set \"CSC=\"".toList

def discovery (roots : List (List Char)) : List (List Char) :=
  forgetLine ::
    match roots with
    | [] => []
    | first :: later => searchLoop [] first ++ later.flatMap laterRoot

def rule : List Char := List.replicate 56 '='

/-- The title on an empty screen. -/
def title : List (List Char) :=
  [ "@echo off".toList
  , "cls".toList
  , "color 0A".toList
  , "echo ".toList ++ rule
  , "echo   ExeForge Architect - Local Build Environment".toList
  , "echo ".toList ++ rule
  , "echo.".toList ]

def targetLine (stem : List Char) : List Char :=
  "echo  Target: ".toList ++ stem ++ ".exe".toList

def architectureLine (architecture : Architecture) : List Char :=
  "echo  Arch:   ".toList ++ architecture.word.toList

def outputLine (output : OutputKind) : List Char :=
  "echo  Mode:   ".toList ++ output.word.toList

/-- The lines between the title and the search. -/
def announcement : List (List Char) :=
  [ "echo.".toList
  , "echo  [1/3] Searching for .NET Framework Compiler...".toList ]

/-- The lines from the opening delimiter to the search. -/
def banner (options : Options) (stem : List Char) : List (List Char) :=
  title ++ [targetLine stem, architectureLine options.architecture, outputLine options.output] ++
    announcement

/-- The lines between the search and the call of the compiler. -/
def notice : List (List Char) :=
  [ []
  , missingLine
  , "    color 0C".toList
  , "    echo ".toList ++
      escapeEcho "ERROR: C# Compiler (csc.exe) not found in Windows directory.".toList
  , "    echo Ensure .NET Framework is installed.".toList
  , "    pause".toList
  , "    goto :eof".toList
  , blockEnd
  , []
  , "echo  [2/3] Compiler found at:".toList
  , "echo        %CSC%".toList
  , "echo.".toList
  , "echo  [3/3] Compiling source code...".toList
  , "echo.".toList
  , [] ]

def compilerCall (switches : Switches) : List Char :=
  "\"%CSC%\" ".toList ++ switches.line.toList ++ [' '] ++ selfReference

/-- What happens if the compiler fails, and the start of what happens if not. -/
def verdict : List (List Char) :=
  [ []
  , "if %errorlevel% neq 0 (".toList
  , "    color 0C".toList
  , "    echo.".toList
  , "    echo  [!] BUILD FAILED. Please check the source code errors above.".toList
  , "    echo.".toList
  , "    pause".toList
  , "    goto :eof".toList
  , blockEnd
  , []
  , "color 0A".toList
  , "echo.".toList
  , "echo  [+] BUILD SUCCESSFUL!".toList ]

def createdLine (stem : List Char) : List Char :=
  "echo      File created: %~dp0".toList ++ stem ++ ".exe".toList

/-- The farewell, and the removal of the script's own file. -/
def farewell : List (List Char) :=
  [ "echo.".toList
  , "echo  You can now run your genuine application.".toList
  , "echo.".toList
  , "pause".toList
  , "del ".toList ++ selfReference ++ " & exit".toList ]

def leaveLine : List Char := "goto :eof".toList

/-- The lines after the call, down to the closing delimiter. -/
def report (stem : List Char) : List (List Char) :=
  verdict ++ [createdLine stem] ++ farewell ++ [leaveLine]

def scriptLines (options : Options) (stem : List Char) (switches : Switches)
    (roots : List (List Char)) : List (List Char) :=
  banner options stem ++ discovery roots ++ notice ++ [compilerCall switches] ++ report stem

def allLines (options : Options) (stem : List Char) (switches : Switches)
    (roots : List (List Char)) : List (List Char) :=
  openLine :: (scriptLines options stem switches roots ++ [commentClose])

def chars (options : Options) (stem : List Char) (switches : Switches)
    (roots : List (List Char)) : List Char :=
  Text.unlines (allLines options stem switches roots)

def text (options : Options) (stem : String) (switches : Switches) (roots : List String) :
    String :=
  String.ofList (chars options stem.toList switches (roots.map String.toList))

end Preamble

end SelfBuild
