import SelfBuild.Disk.Basic
import SelfBuild.Text.Lines
import SelfBuild.Text.Utf8

/-!
# Text files

Reading a text file decodes it strictly and turns every line end into a line feed.
-/

namespace SelfBuild

namespace Disk

/-- Why a text file cannot be read. -/
inductive ReadFault where
  | disk (fault : Fault)
  | encoding (fault : Text.Utf8.Fault)
deriving DecidableEq, Repr

def ReadFault.message : ReadFault -> String
  | .disk fault => fault.message
  | .encoding fault => fault.message

/-- The text of a file, as readers see it. -/
def readText (disk : Disk) (path : Path) : Except ReadFault String :=
  match disk.readBytes path with
  | .error fault => .error (.disk fault)
  | .ok bytes =>
      match Text.Utf8.decode bytes with
      | .error fault => .error (.encoding fault)
      | .ok text => .ok (String.ofList (Text.normalizeEnds text.toList))

end Disk

end SelfBuild
