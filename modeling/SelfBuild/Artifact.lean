import SelfBuild.FileName
import SelfBuild.Preamble
import SelfBuild.Text.Search

/-!
# Artifacts

An artifact is a preamble with the program's source behind it, unchanged.  It is read back in two
ways: by its close line, as this library splits it, and by the comment rule, as the compiler does.
-/

namespace SelfBuild

namespace Artifact

def preambleChars (project : Project) (options : Options) : List Char :=
  let stem := FileName.stem project
  Preamble.chars options stem.toList (Switches.ofOptions options stem) Preamble.standardRoots

def chars (project : Project) (options : Options) (source : List Char) : List Char :=
  preambleChars project options ++ source

/-- One text that is a batch script and a source file at once. -/
def compose (project : Project) (options : Options) (source : String) : String :=
  String.ofList (chars project options source.toList)

/-- The close line with the line feeds on both sides. -/
def closeLine : List Char :=
  '\n' :: Preamble.commentClose ++ ['\n']

/-- The part up to the first close line, and the part after it. -/
def splitChars? (s : List Char) : Option (List Char × List Char) :=
  (Text.cut? closeLine s).map fun (before, source) => (before ++ closeLine, source)

def split? (artifact : String) : Option (String × String) :=
  (splitChars? artifact.toList).map fun (preamble, source) =>
    (String.ofList preamble, String.ofList source)

def splitFailure : String :=
  "Not an ExeForge artifact: comment close line not found"

/-- Why a text has no leading comment. -/
inductive CommentFault where
  | notOpened
  | notClosed
deriving DecidableEq, Repr

def CommentFault.message : CommentFault -> String
  | .notOpened => "text does not start with a block comment"
  | .notClosed => "unterminated block comment"

/-- What follows a leading block comment; comments do not nest. -/
def afterComment (s : List Char) : Except CommentFault (List Char) :=
  match Text.after? Preamble.commentOpen s with
  | none => .error .notOpened
  | some body =>
      match Text.cut? Preamble.commentClose body with
      | some (_, rest) => .ok rest
      | none => .error .notClosed

/-- What a user should know about an artifact that is built all the same. -/
inductive Remark where
  | namelessProject (name : Option WideText)
  | emptySource
  | closeInSource
deriving DecidableEq, Repr

def Remark.kind : Remark -> String
  | .namelessProject _ => "WARN"
  | .emptySource => "INFO"
  | .closeInSource => "WARN"

def Remark.code : Remark -> String
  | .namelessProject _ => "EXF-NAME-0001"
  | .emptySource => "EXF-SRC-0002"
  | .closeInSource => "EXF-SRC-0001"

def Remark.message : Remark -> String
  | .namelessProject name =>
      let shown := ((name.map Json.Value.string).getD .null).display
      s!"Project name {shown} has no filename-safe characters; output will be App.exe"
  | .emptySource =>
      "Embedded source is empty; the artifact will fail to compile on the target machine."
  | .closeInSource => "Embedded source contains '*/'; the artifact is emitted unchanged."

/-- The remarks on a name, which may be missing, and a source. -/
def remarks (name : Option WideText) (source : List Char) : List Remark :=
  let chars := (name.map WideText.toList).getD []
  (if FileName.sanitize chars = [] then [.namelessProject name] else []) ++
    (if Text.allBlank source then [.emptySource] else []) ++
    (if Text.occurs Preamble.commentClose source then [.closeInSource] else [])

def audit (project : Project) (source : String) : List Remark :=
  remarks (project.name.map .plain) source.toList

end Artifact

end SelfBuild
