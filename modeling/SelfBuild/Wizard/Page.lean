import SelfBuild.Build
import SelfBuild.Lint.Finding
import SelfBuild.Wizard.Markup

/-!
# The page of the wizard

One page holds the whole state of the wizard: what it shows is what its form posts.  An empty error
or preview is not shown.
-/

namespace SelfBuild

namespace Wizard

/-- Something that a page tells about a build. -/
structure Note where
  kind : String
  code : String
  message : String
deriving DecidableEq, Repr

def Note.ofRemark (remark : Artifact.Remark) : Note :=
  ⟨remark.kind, remark.code, remark.message⟩

def Note.ofFinding (finding : Lint.Finding) : Note :=
  ⟨finding.kind, finding.cause.code, finding.cause.message⟩

structure Page where
  build : Build := {}
  input : String := ""
  error : String := ""
  notes : List Note := []
  preview : String := ""
deriving DecidableEq, Repr

namespace Page

def markupLines (lines : List String) : Piece :=
  .markup (String.join (lines.map fun line => line ++ "\n"))

def styleRule (selector style : String) : String :=
  "    " ++ selector ++ " \x7b " ++ style ++ " \x7d"

/-- Everything above the first text of a page. -/
def top : Piece :=
  markupLines
    [ "<!doctype html>"
    , "<html lang=\"en\">"
    , "<head>"
    , "  <meta charset=\"utf-8\">"
    , "  <title>ExeForge</title>"
    , "  <style>"
    , styleRule "body" "background: #0a0a0c; color: #ddd; font-family: monospace; margin: 0;"
    , styleRule "header" "padding: 16px 24px; border-bottom: 1px solid #222;"
    , styleRule "main" "padding: 24px; max-width: 1100px; margin: 0 auto;"
    , styleRule "fieldset" "border: 1px solid #333; margin-bottom: 18px;"
    , styleRule "legend" "color: #00ff9d; text-transform: uppercase;"
    , styleRule "label" "display: block; margin: 6px 0;"
    , styleRule "input[type=text], select, textarea"
        "width: 100%; background: #111; color: #eee; border: 1px solid #333; padding: 6px;"
    , styleRule "textarea" "min-height: 220px;"
    , styleRule ".error" "color: #ff6b6b;"
    , styleRule ".note" "color: #f7c948;"
    , styleRule "pre" "background: #111; padding: 12px; overflow: auto;"
    , styleRule "button" "margin-right: 8px;"
    , "  </style>"
    , "</head>"
    , "<body>"
    , "<header><strong>EXEFORGE</strong> &middot; self-compiling installer scripts</header>"
    , "<main>" ]

def errorPieces (error : String) : List Piece :=
  if error = "" then []
  else [.markup "<p class=\"error\">", .shown error, .markup "</p>"]

def notePieces (note : Note) : List Piece :=
  [ .markup "<p class=\"note\">", .shown note.kind, .markup " ", .shown note.code, .markup ": "
  , .shown note.message, .markup "</p>" ]

def textField (label name value : String) : List Piece :=
  [ .markup ("      <label>" ++ label ++ " <input type=\"text\" name=\"" ++ name ++ "\" value=\"")
  , .shown value
  , .markup "\"></label>\n" ]

def projectPieces (project : Project) : List Piece :=
  [markupLines ["    <fieldset>", "      <legend>1 &middot; Metadata</legend>"]] ++
    textField "Name" "project_name" (project.name.getD "None") ++
    textField "Version" "version" project.version ++
    textField "Author" "author" project.author ++
    textField "Copyright" "copyright" project.copyright ++
    textField "Description" "description" project.description ++
    [markupLines ["    </fieldset>"]]

/-- One of the words of a list, where the chosen word is marked. -/
def choice (chosen : String) (word label : String) : List Piece :=
  [ .markup "\n          <option value=\"", .shown word, .markup "\" "
  , .markup (if chosen = word then "selected" else "")
  , .markup ">", .shown label, .markup "</option>\n          " ]

def choiceField (label name chosen : String) (choices : List (String × String)) : List Piece :=
  [ markupLines ["      <label>" ++ label, "        <select name=\"" ++ name ++ "\">"]
  , .markup "          " ] ++
    (choices.flatMap fun (word, label) => choice chosen word label) ++
    [markupLines ["", "        </select>", "      </label>"]]

def boxField (label name : String) (checked : Bool) : Piece :=
  .markup <|
    "      <label><input type=\"checkbox\" name=\"" ++ name ++ "\" " ++
      (if checked then "checked" else "") ++ "> " ++ label ++ "</label>\n"

def architectureLabel : Architecture -> String
  | .anyCpu => "Any CPU (recommended)"
  | .x64 => "x64 (64-bit)"
  | .x86 => "x86 (32-bit)"

def outputLabel : OutputKind -> String
  | .console => "Console Application (.exe)"
  | .windowed => "Windows GUI (.exe)"

def optionsPieces (options : Options) : List Piece :=
  [markupLines ["    <fieldset>", "      <legend>2 &middot; Configuration</legend>"]] ++
    choiceField "Target architecture" "architecture" options.architecture.word
      (Architecture.all.map fun one => (one.word, architectureLabel one)) ++
    choiceField "Output type" "output_type" options.output.word
      (OutputKind.all.map fun one => (one.word, outputLabel one)) ++
    [ boxField "Enable optimization" "enable_optimization" options.optimize
    , boxField "Allow unsafe code" "allow_unsafe" options.allowUnsafe
    , markupLines ["    </fieldset>"] ]

/-- What stands in the empty field for the service. -/
def hint : String :=
  "Describe what the .exe should do, or paste Python / pseudo code..."

def codePieces (input : String) (source : WideText) : List Piece :=
  [ markupLines
      [ "    <fieldset>"
      , "      <legend>3 &middot; Code</legend>"
      , "      <label>AI prompt / code input" ]
  , .markup ("        <textarea name=\"raw_input\" placeholder=\"" ++ hint ++ "\">")
  , .shown input
  , markupLines
      [ "</textarea>"
      , "      </label>"
      , "      <button type=\"submit\" formaction=\"/convert\">Convert to C#</button>"
      , "      <button type=\"submit\" formaction=\"/validate\">Validate</button>"
      , "      <label>C# source" ]
  , .markup "        <textarea name=\"source_code\" spellcheck=\"false\">"
  , .shown source
  , markupLines ["</textarea>", "      </label>", "    </fieldset>"] ]

def reviewPiece : Piece :=
  markupLines
    [ "    <fieldset>"
    , "      <legend>4 &middot; Review</legend>"
    , "      <p>The download is a .cmd file that is also a C# source file. Running it on Windows " ++
        "locates the"
    , "        built-in .NET Framework compiler (csc.exe), compiles itself into a real .exe and " ++
        "deletes itself.</p>"
    , "      <button type=\"submit\" name=\"action\" value=\"preview\">Preview artifact</button>"
    , "      <button type=\"submit\" name=\"action\" value=\"download\">Generate .exe artifact" ++
        "</button>"
    , "    </fieldset>" ]

/-- A line of the log, to be posted again. -/
def logField (line : WideText) : List Piece :=
  [.markup "<input type=\"hidden\" name=\"log\" value=\"", .shown line, .markup "\">"]

def logPieces (log : List WideText) : List Piece :=
  if log = [] then []
  else
    [ markupLines ["", "  <fieldset>", "    <legend>Build log</legend>"], .markup "    <pre>" ] ++
      (log.flatMap fun line => [.shown line, .markup "\n"]) ++
      [markupLines ["</pre>", "  </fieldset>"], .markup "  "]

def previewPieces (preview : String) : List Piece :=
  if preview = "" then []
  else
    [ markupLines ["", "  <fieldset>", "    <legend>Artifact preview</legend>"]
    , .markup "    <pre>"
    , .shown preview
    , markupLines ["</pre>", "  </fieldset>"]
    , .markup "  " ]

def formPieces (page : Page) (source : WideText) (log : List WideText) : List Piece :=
  [markupLines ["  <form method=\"post\" action=\"/build\">"]] ++
    projectPieces page.build.project ++ [.markup "\n"] ++
    optionsPieces page.build.options ++ [.markup "\n"] ++
    codePieces page.input source ++ [.markup "\n"] ++
    [reviewPiece, .markup "\n    "] ++
    log.flatMap logField ++
    [.markup "\n  </form>\n"]

/-- The page with a source and a log of wide texts in the place of its own. -/
def piecesWith (page : Page) (source : WideText) (log : List WideText) : List Piece :=
  [top, .markup "  "] ++ errorPieces page.error ++
    [.markup "\n  "] ++ page.notes.flatMap notePieces ++
    [.markup "\n\n"] ++ page.formPieces source log ++
    [.markup "\n  "] ++ logPieces log ++
    [.markup "\n\n  "] ++ previewPieces page.preview ++
    [.markup "\n</main>\n</body>\n</html>"]

def pieces (page : Page) : List Piece :=
  page.piecesWith page.build.source (page.build.log.map .plain)

def text (page : Page) : String :=
  String.ofList (render page.pieces)

end Page

end Wizard

end SelfBuild
