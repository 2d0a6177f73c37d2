import SelfBuild.Build
import SelfBuild.Text.Blank

/-!
# Posted forms

A form is the row of fields that a page posts.  Of fields with one name the first counts, except that
all fields of the log are kept.  A box that is not checked is no field at all.
-/

namespace SelfBuild

namespace Wizard

/-- The fields of a form, in order. -/
abbrev Form := List (String × String)

namespace Form

/-- The value of a field, or a default where the form has none. -/
def value (form : Form) (name default : String) : String :=
  (form.lookup name).getD default

def isChecked (form : Form) (name : String) : Bool :=
  form.lookup name = some "on"

/-- The log that came with the form, without blank lines. -/
def log (form : Form) : List String :=
  (form.filterMap fun (name, value) => if name = "log" then some value else none).filter
    fun line => !Text.allBlank line.toList

def input (form : Form) : String :=
  form.value "raw_input" ""

def project (form : Form) : Project where
  name := some (form.value "project_name" "MyApp")
  version := form.value "version" "1.0.0"
  author := form.value "author" ""
  copyright := form.value "copyright" ""
  description := form.value "description" ""

def options (form : Form) : Options.Raw where
  architecture := .string (form.value "architecture" Architecture.anyCpu.word)
  output := .string (form.value "output_type" OutputKind.console.word)
  optimize := .bool (form.isChecked "enable_optimization")
  allowUnsafe := .bool (form.isChecked "allow_unsafe")

def buildWith (form : Form) (options : Options) : Build where
  project := form.project
  options := options
  source := form.value "source_code" Project.sampleProgram
  log := form.log

end Form

end Wizard

end SelfBuild
