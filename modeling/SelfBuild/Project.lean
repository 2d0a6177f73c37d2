import SelfBuild.Json.Display

/-!
# Projects

What a user says about a program.  Only the name reaches the artifact; the rest is carried along
and shown.  A record may say it in texts that are not plain.
-/

namespace SelfBuild

/-- The value of the first of several keys that a record has. -/
def Json.Fields.pick? (fields : Json.Fields) (keys : List String) : Option Json.Value :=
  keys.findSome? fun key : String => fields.lookup key

/-- The description of a project; the name may be missing altogether. -/
structure Project where
  name : Option String := some "MyApp"
  version : String := "1.0.0"
  author : String := ""
  copyright : String := ""
  description : String := ""
deriving DecidableEq, Repr

namespace Project

/-- The characters of the name; a missing name has none. -/
def nameChars (project : Project) : List Char :=
  (project.name.getD "").toList

/-- The program that is built when none is given. -/
def sampleProgram : String :=
  "\n".intercalate
    [ "using System;"
    , "using System.Windows.Forms;"
    , ""
    , "namespace MyApp \x7b"
    , "    class Program \x7b"
    , "        [STAThread]"
    , "        static void Main() \x7b"
    , "            Console.WriteLine(\"Hello from ExeForge!\");"
    , "            // MessageBox.Show(\"Hello from ExeForge!\");"
    , "            Console.ReadLine();"
    , "        \x7d"
    , "    \x7d"
    , "\x7d" ]

end Project

/-- The description that a record gives. -/
structure Metadata where
  name : WideText := "MyApp"
  version : WideText := "1.0.0"
  author : WideText := ""
  copyright : WideText := ""
  description : WideText := ""
deriving DecidableEq, Repr

namespace Metadata

/-- Read a description from a record.  Any value is taken for its text, and the name is found under
either of two keys. -/
def ofRecord (fields : Json.Fields) : Metadata :=
  let textOf (keys : List String) (default : String) : WideText :=
    ((fields.pick? keys).map Json.Value.text).getD default
  { name := textOf ["project_name", "projectName"] "MyApp"
    version := textOf ["version"] "1.0.0"
    author := textOf ["author"] ""
    copyright := textOf ["copyright"] ""
    description := textOf ["description"] "" }

/-- The project as it is looked at. -/
def project (metadata : Metadata) : Project where
  name := some metadata.name.seen
  version := metadata.version.seen
  author := metadata.author.seen
  copyright := metadata.copyright.seen
  description := metadata.description.seen

end Metadata

end SelfBuild
