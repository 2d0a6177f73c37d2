import SelfBuild.Disk.Basic

/-!
# Making folders with all that they need

A folder is made together with the missing folders on the way to it.  Each of these is tried first by
itself, so folders that stand there already are left alone, and folders made on the way stay when a
later one is refused.
-/

namespace SelfBuild

namespace Disk

/-- Make one folder; where `existing` is allowed, a folder that is already there will do. -/
def ensureFolder (existing : Bool) (disk : Disk) (path : Path) : Except Fault Disk :=
  match disk.makeFolder path with
  | .ok made => .ok made
  | .error (.system .noEntry at_ onto) => .error (.system .noEntry at_ onto)
  | .error fault =>
      if existing && fault.isSystem then
        match disk.isFolder path with
        | .ok true => .ok disk
        | .ok false => .error fault
        | .error other => .error other
      else .error fault

/-- Make a folder, given by its names from the last to the first, and the folders on the way to it.
The disk is returned also when the folder cannot be made. -/
def makeFoldersFrom (anchor : Path.Anchor) : List String -> Bool -> Disk -> Except Fault Unit × Disk
  | [], existing, disk =>
      match disk.ensureFolder existing ⟨anchor, []⟩ with
      | .ok made => (.ok (), made)
      | .error fault => (.error fault, disk)
  | name :: outer, existing, disk =>
      let path : Path := ⟨anchor, (name :: outer).reverse⟩
      match disk.ensureFolder existing path with
      | .ok made => (.ok (), made)
      | .error (.system .noEntry _ _) =>
          match makeFoldersFrom anchor outer true disk with
          | (.error fault, disk) => (.error fault, disk)
          | (.ok _, disk) =>
              match disk.ensureFolder existing path with
              | .ok made => (.ok (), made)
              | .error fault => (.error fault, disk)
      | .error fault => (.error fault, disk)

def makeFolders (disk : Disk) (path : Path) (existing : Bool) : Except Fault Unit × Disk :=
  makeFoldersFrom path.anchor path.names.reverse existing disk

end Disk

end SelfBuild
