/-!
# Usage and help

The texts that explain the program and its commands.  The usage heads each complaint about
arguments, and the help adds the details below it.
-/

namespace SelfBuild

namespace CommandLine

def topUsage : List String :=
  [ "usage: exeforge [-h] \x7bbuild,check,convert\x7d ..." ]

def topDetails : List String :=
  [ "Compose self-compiling C# installer scripts."
  , ""
  , "positional arguments:"
  , "  \x7bbuild,check,convert\x7d"
  , "    build               Compose a .cmd artifact that compiles its embedded C#"
  , "                        source"
  , "    check               Lint an existing artifact against both grammars"
  , "    convert             Draft C# source from a description via the AI service"
  , ""
  , "options:"
  , "  -h, --help            show this help message and exit" ]

def buildUsage : List String :=
  [ "usage: exeforge build [-h] [--request REQUEST] [--name NAME]"
  , "                      [--version VERSION] [--author AUTHOR]"
  , "                      [--copyright COPYRIGHT] [--description DESCRIPTION]"
  , "                      [--arch ARCH] [--mode MODE] [--no-optimize] [--unsafe]"
  , "                      [--source SOURCE] [--out OUT] [--filename FILENAME]"
  , "                      [--no-overwrite] [--stdout]" ]

def buildDetails : List String :=
  [ "options:"
  , "  -h, --help            show this help message and exit"
  , "  --request REQUEST     JSON build request (metadata/config/sourceCode)"
  , "  --name NAME           Project name (default: MyApp)"
  , "  --version VERSION"
  , "  --author AUTHOR"
  , "  --copyright COPYRIGHT"
  , "  --description DESCRIPTION"
  , "  --arch ARCH           ANYCPU | X64 | X86"
  , "  --mode MODE           CONSOLE | WINDOWED"
  , "  --no-optimize         Emit /optimize- instead of /optimize+"
  , "  --unsafe              Emit /unsafe"
  , "  --source SOURCE       C# source file, '-' for stdin (default: hello world)"
  , "  --out OUT             Output folder (default: current directory)"
  , "  --filename FILENAME   Artifact filename (default: <name>_Installer.cmd)"
  , "  --no-overwrite        Fail if the artifact already exists"
  , "  --stdout              Print the artifact instead of writing it" ]

def checkUsage : List String :=
  [ "usage: exeforge check [-h] artifact" ]

def checkDetails : List String :=
  [ "positional arguments:"
  , "  artifact"
  , ""
  , "options:"
  , "  -h, --help  show this help message and exit" ]

def convertUsage : List String :=
  [ "usage: exeforge convert [-h] [--windowed] [--config CONFIG] [--out OUT] prompt" ]

def convertDetails : List String :=
  [ "positional arguments:"
  , "  prompt"
  , ""
  , "options:"
  , "  -h, --help       show this help message and exit"
  , "  --windowed       Target a Windows Forms application"
  , "  --config CONFIG  Settings JSON file (default: $EXEFORGE_CONFIG)"
  , "  --out OUT        Write the source to this file instead of stdout" ]

/-- Lines one below the other, each with its line feed. -/
def paragraph (lines : List String) : String :=
  String.join (lines.map (· ++ "\n"))

end CommandLine

end SelfBuild
