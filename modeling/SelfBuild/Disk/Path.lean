import SelfBuild.Text.Blank

/-!
# Paths

A path names an entry of a disk, from the root or from the working folder.  Empty names and names
that stay in the same folder are dropped when a path is read, and a name that leads one folder up is
kept.  Two slashes at the front are kept as well: systems may give them a meaning of their own, and
more than two count as one.
-/

namespace SelfBuild

/-- Where a path starts. -/
inductive Path.Anchor where
  | here
  | root
  | doubledRoot
deriving DecidableEq, Repr

structure Path where
  anchor : Path.Anchor
  names : List String
deriving DecidableEq, Repr

namespace Path

/-- The slashes at the front of a path. -/
def Anchor.text : Anchor -> String
  | .here => ""
  | .root => "/"
  | .doubledRoot => "//"

def Anchor.ofSlashes : Nat -> Anchor
  | 0 => .here
  | 2 => .doubledRoot
  | _ => .root

def fromRoot (path : Path) : Bool :=
  path.anchor != .here

/-- Read a path; names stand between slashes. -/
def ofString (s : String) : Path where
  anchor := .ofSlashes (s.toList.takeWhile (· = '/')).length
  names := ((Text.wordsBy (· = '/') s.toList).filter (· ≠ ['.'])).map String.ofList

/-- Write a path; the path without names is a single dot. -/
def text (path : Path) : String :=
  if path.anchor = .here ∧ path.names = [] then "."
  else path.anchor.text ++ "/".intercalate path.names

/-- The path without its last name. -/
def parent (path : Path) : Path :=
  { path with names := path.names.dropLast }

/-- The last name, or nothing. -/
def name (path : Path) : String :=
  path.names.getLast?.getD ""

def child (path : Path) (name : String) : Path :=
  { path with names := path.names ++ [name] }

/-- Whether the path holds a character that no file system accepts. -/
def hasNul (path : Path) : Bool :=
  path.names.any fun name => name.toList.contains (Char.ofNat 0)

/-- The home folders that a process knows: its user's own, and those of others by name. -/
structure Homes where
  own : Option String
  others : List (String × String) := []

instance : Coe String Homes := ⟨fun home => { own := some home }⟩

/-- Put a home folder in the place of a tilde and the name behind it; a path that names no known home
stays as it is. -/
def expandHome (homes : Homes) (s : String) : String :=
  match s.toList with
  | '~' :: rest =>
      let user := String.ofList (rest.takeWhile (· ≠ '/'))
      let home? := if user = "" then homes.own else homes.others.lookup user
      match home? with
      | none => s
      | some home =>
          let kept := (home.toList.reverse.dropWhile (· = '/')).reverse
          let expanded := String.ofList (kept ++ rest.dropWhile (· ≠ '/'))
          if expanded = "" then "/" else expanded
  | _ => s

theorem parent_child (path : Path) (name : String) : (path.child name).parent = path := by
  simp [parent, child]

end Path

end SelfBuild
