import SelfBuild.Options

/-!
# Compiler switches

The switches that the compiler is called with, derived from the options and the stem of the
program's file name.
-/

namespace SelfBuild

/-- The switches of one compiler call; `unsafeCode` is empty when there is no such switch. -/
structure Switches where
  out : String
  target : String
  platform : String
  optimize : String
  unsafeCode : String
  references : List String
deriving DecidableEq, Repr

namespace Switches

/-- Keeps the compiler from announcing itself. -/
def quiet : String := "/nologo"

def windowLibraries : List String :=
  ["/reference:System.Windows.Forms.dll", "/reference:System.Drawing.dll"]

/-- The switches for the given options, with the program named by its stem. -/
def ofOptions (options : Options) (stem : String) : Switches where
  out := "/out:\"" ++ stem ++ ".exe\""
  target :=
    match options.output with
    | .console => "/target:exe"
    | .windowed => "/target:winexe"
  platform := "/platform:" ++ options.architecture.word
  optimize := if options.optimize then "/optimize+" else "/optimize-"
  unsafeCode := if options.allowUnsafe then "/unsafe" else ""
  references :=
    match options.output with
    | .console => []
    | .windowed => windowLibraries

/-- The switches in the order of the call. -/
def arguments (switches : Switches) : List String :=
  [quiet, switches.out, switches.target, switches.platform, switches.optimize] ++
    (if switches.unsafeCode = "" then [] else [switches.unsafeCode]) ++ switches.references

def line (switches : Switches) : String :=
  " ".intercalate switches.arguments

end Switches

end SelfBuild
