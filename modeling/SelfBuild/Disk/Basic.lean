import SelfBuild.Disk.Path
import SelfBuild.Text.Quoted

/-!
# Disks

A disk is a tree of folders and files, kept as the entries below the root with their locations, and
a working folder.  Every operation either yields a new disk or is refused for a reason that names the
path, and a refused operation changes nothing.

A path is followed name by name: all names but the last must lead to folders.
-/

namespace SelfBuild

abbrev Location := List String

inductive Node where
  | folder
  | file (content : ByteArray)

instance : DecidableEq Node
  | .folder, .folder => isTrue rfl
  | .folder, .file _ => isFalse nofun
  | .file _, .folder => isFalse nofun
  | .file ⟨a⟩, .file ⟨b⟩ =>
      if h : a = b then isTrue (by rw [h])
      else isFalse fun e => h (congrArg ByteArray.data (Node.file.inj e))

structure Disk where
  entries : List (Location × Node)
  workingFolder : Location

namespace Disk

/-- Why the system refuses an operation. -/
inductive Reason where
  | noEntry
  | denied
  | busy
  | alreadyThere
  | notFolder
  | isFolder
  | nameTooLong
deriving DecidableEq, Repr

def Reason.number : Reason -> Nat
  | .noEntry => 2
  | .denied => 13
  | .busy => 16
  | .alreadyThere => 17
  | .notFolder => 20
  | .isFolder => 21
  | .nameTooLong => 36

def Reason.text : Reason -> String
  | .noEntry => "No such file or directory"
  | .denied => "Permission denied"
  | .busy => "Device or resource busy"
  | .alreadyThere => "File exists"
  | .notFolder => "Not a directory"
  | .isFolder => "Is a directory"
  | .nameTooLong => "File name too long"

/-- A refused operation: by the system, with the path and possibly a second one, or because the path
cannot be handed to the system at all. -/
inductive Fault where
  | system (reason : Reason) (path : Path) (onto : Option Path)
  | nulInPath
deriving DecidableEq, Repr

def Fault.message : Fault -> String
  | .system reason path onto =>
      let target := (onto.map fun other => " -> " ++ Text.quoted other.text).getD ""
      s!"[Errno {reason.number}] {reason.text}: {Text.quoted path.text}" ++ target
  | .nulInPath => "embedded null byte"

def Fault.isSystem : Fault -> Bool
  | .system .. => true
  | .nulInPath => false

/-- What stands at a location; the root is a folder. -/
def node? (disk : Disk) (location : Location) : Option Node :=
  if location = [] then some .folder else disk.entries.lookup location

/-- Put a node at a location, in place of any other. -/
def put (disk : Disk) (location : Location) (node : Node) : Disk :=
  { disk with entries := (location, node) :: disk.entries.filter fun entry => entry.1 != location }

def erase (disk : Disk) (location : Location) : Disk :=
  { disk with entries := disk.entries.filter fun entry => entry.1 != location }

/-- The most bytes that a name may have. -/
def nameLimit : Nat := 255

/-- The most bytes that a path may have. -/
def pathLimit : Nat := 4095

def up : String := ".."

def enter (disk : Disk) (here : Location) (name : String) : Except Reason Location :=
  if name = up then .ok here.dropLast
  else if name.utf8ByteSize > nameLimit then .error .nameTooLong
  else
    match disk.node? (here ++ [name]) with
    | none => .error .noEntry
    | some .folder => .ok (here ++ [name])
    | some (.file _) => .error .notFolder

def walk (disk : Disk) : Location -> List String -> Except Reason Location
  | here, [] => .ok here
  | here, name :: rest =>
      match disk.enter here name with
      | .ok next => disk.walk next rest
      | .error reason => .error reason

/-- What a path names: a folder that was already entered, or a place in a folder, where something may
stand or not. -/
inductive Target where
  | entered (location : Location)
  | place (location : Location)

def start (disk : Disk) (path : Path) : Location :=
  if path.fromRoot then [] else disk.workingFolder

/-- Follow a path up to its last name. -/
def resolve (disk : Disk) (path : Path) : Except Reason Target :=
  if path.text.utf8ByteSize > pathLimit then .error .nameTooLong
  else
    match path.names.getLast? with
    | none => .ok (.entered (disk.start path))
    | some name =>
        match disk.walk (disk.start path) path.names.dropLast with
        | .error reason => .error reason
        | .ok here =>
            if name = up then .ok (.entered here.dropLast)
            else if name.utf8ByteSize > nameLimit then .error .nameTooLong
            else .ok (.place (here ++ [name]))

def find (disk : Disk) (path : Path) : Except Reason Node :=
  match disk.resolve path with
  | .error reason => .error reason
  | .ok (.entered _) => .ok .folder
  | .ok (.place location) =>
      match disk.node? location with
      | some node => .ok node
      | none => .error .noEntry

/-- Whether what a path leads to has a property; nothing there counts as no. -/
def check (disk : Disk) (path : Path) (property : Node -> Bool) : Except Fault Bool :=
  if path.hasNul then .ok false
  else
    match disk.find path with
    | .ok node => .ok (property node)
    | .error .noEntry => .ok false
    | .error .notFolder => .ok false
    | .error reason => .error (.system reason path none)

def isThere (disk : Disk) (path : Path) : Except Fault Bool :=
  disk.check path fun _ => true

def isFile (disk : Disk) (path : Path) : Except Fault Bool :=
  disk.check path fun node =>
    match node with
    | .file _ => true
    | .folder => false

def isFolder (disk : Disk) (path : Path) : Except Fault Bool :=
  disk.check path (· == .folder)

def readBytes (disk : Disk) (path : Path) : Except Fault ByteArray :=
  if path.hasNul then .error .nulInPath
  else
    match disk.find path with
    | .ok (.file content) => .ok content
    | .ok .folder => .error (.system .isFolder path none)
    | .error reason => .error (.system reason path none)

/-- Give a file this content, whether it was there before or not. -/
def write (disk : Disk) (path : Path) (content : ByteArray) : Except Fault Disk :=
  if path.hasNul then .error .nulInPath
  else
    match disk.resolve path with
    | .error reason => .error (.system reason path none)
    | .ok (.entered _) => .error (.system .isFolder path none)
    | .ok (.place location) =>
        match disk.node? location with
        | some .folder => .error (.system .isFolder path none)
        | _ => .ok (disk.put location (.file content))

def makeFolder (disk : Disk) (path : Path) : Except Fault Disk :=
  if path.hasNul then .error .nulInPath
  else
    match disk.resolve path with
    | .error reason => .error (.system reason path none)
    | .ok (.entered _) => .error (.system .alreadyThere path none)
    | .ok (.place location) =>
        match disk.node? location with
        | some _ => .error (.system .alreadyThere path none)
        | none => .ok (disk.put location .folder)

def remove (disk : Disk) (path : Path) : Except Fault Disk :=
  if path.hasNul then .error .nulInPath
  else
    match disk.resolve path with
    | .error reason => .error (.system reason path none)
    | .ok (.entered _) => .error (.system .isFolder path none)
    | .ok (.place location) =>
        match disk.node? location with
        | none => .error (.system .noEntry path none)
        | some .folder => .error (.system .isFolder path none)
        | some (.file _) => .ok (disk.erase location)

/-- Move a file onto a path, in place of a file that stands there. -/
def replace (disk : Disk) (path onto : Path) : Except Fault Disk :=
  let refuse (reason : Reason) : Except Fault Disk := .error (.system reason path (some onto))
  if path.hasNul || onto.hasNul then .error .nulInPath
  else
    match disk.resolve path, disk.resolve onto with
    | .error reason, _ => refuse reason
    | _, .error reason => refuse reason
    | .ok (.entered _), _ => refuse .busy
    | _, .ok (.entered _) => refuse .busy
    | .ok (.place source), .ok (.place target) =>
        match disk.node? source with
        | none => refuse .noEntry
        | some .folder => refuse .isFolder
        | some (.file content) =>
            if disk.node? target = some .folder then refuse .isFolder
            else .ok ((disk.erase source).put target (.file content))

/-- An entry's path in a listing, where the path of a folder ends in a slash. -/
def listedPath (names : List String) : Node -> String
  | .folder => "/".intercalate names ++ "/"
  | .file _ => "/".intercalate names

/-- The entries below the working folder, sorted by their paths from there. -/
def listing (disk : Disk) : List (String × Node) :=
  let below := disk.entries.filterMap fun (location, node) =>
    match disk.workingFolder.isPrefixOf? location with
    | some (name :: names) => some (listedPath (name :: names) node, node)
    | _ => none
  below.mergeSort fun a b => !(b.1 < a.1)

theorem node?_put (disk : Disk) {location : Location} (node : Node) (h : location ≠ []) :
    (disk.put location node).node? location = some node := by
  simp [node?, put, h]

theorem node?_put_of_ne (disk : Disk) {location other : Location} (node : Node)
    (h : other ≠ location) : (disk.put location node).node? other = disk.node? other := by
  by_cases hroot : other = []
  · simp [node?, hroot]
  · have hkey : (other == location) = false := beq_false_of_ne h
    simp only [node?, hroot, if_false, put, List.lookup_cons, hkey]
    induction disk.entries with
    | nil => rfl
    | cons entry rest ih =>
        obtain ⟨place, found⟩ := entry
        by_cases hplace : place = location
        · simp [hplace, List.lookup_cons, hkey, ih]
        · rw [List.filter_cons_of_pos (by simp [hplace])]
          simp only [List.lookup_cons]
          split <;> simp [ih]

end Disk

end SelfBuild
