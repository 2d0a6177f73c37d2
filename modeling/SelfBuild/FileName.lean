import SelfBuild.Project
import SelfBuild.Text.Blank
import SelfBuild.Text.Compatibility

/-!
# File names

Two ways from a free text to a name.  The stem of the program keeps the ASCII letters, digits,
underscores and hyphens of the project's name.  The name of a delivered file first takes accents
and ligatures apart, joins words with underscores, keeps dots as well, and has no dot or underscore
at either end.
-/

namespace SelfBuild

namespace FileName

def fallback : List Char := "App".toList

def isStemChar (c : Char) : Bool :=
  c.isAlphanum || c = '_' || c = '-'

def sanitize (s : List Char) : List Char :=
  s.filter isStemChar

/-- The stem of a program's file name; it is never empty. -/
def stemOf (s : List Char) : List Char :=
  if sanitize s = [] then fallback else sanitize s

def stem (project : Project) : String :=
  String.ofList (stemOf project.nameChars)

def isSafeChar (c : Char) : Bool :=
  c.isAlphanum || c = '_' || c = '.' || c = '-'

/-- The characters that a delivered file's name neither starts nor ends with. -/
def isEdge (c : Char) : Bool :=
  c = '.' || c = '_'

/-- Drop the characters at both ends that a name may not have there. -/
def trimEdges (s : List Char) : List Char :=
  ((s.dropWhile isEdge).reverse.dropWhile isEdge).reverse

def joinWords (words : List (List Char)) : List Char :=
  ['_'].intercalate words

/-- Make a name that is safe in any folder; it may come out empty.  This is the documented rule for safe
names of uploaded files, as it stands for POSIX systems: characters are taken apart and what is not
ASCII is dropped, a slash counts as a blank, words are joined with underscores, only letters, digits,
underscores, dots and hyphens are kept, and dots and underscores go from both ends. -/
def secure (s : List Char) : List Char :=
  let separated := (Text.asciiForms s).map fun c => if c = '/' then ' ' else c
  trimEdges ((joinWords (Text.wordsBy Text.isBlank separated)).filter isSafeChar)

def scriptExtension : String := ".cmd"

/-- The name that a project's artifact gets by itself; an empty extension counts as none. -/
def suggested (project : Project) (extension? : Option String) : String :=
  let base := secure project.nameChars
  let extension :=
    match extension? with
    | some extension => if extension = "" then scriptExtension else extension
    | none => scriptExtension
  String.ofList (if base = [] then fallback else base) ++ "_Installer" ++ extension

/-- The name under which an artifact is delivered: the requested one made safe, if anything is left
of it, and otherwise the suggested one. -/
def download (project : Project) (requested? : Option String) : String :=
  match requested? with
  | some requested =>
      let name := secure requested.toList
      if name = [] then suggested project none else String.ofList name
  | none => suggested project none

theorem stemOf_ne_nil (s : List Char) : stemOf s ≠ [] := by
  unfold stemOf
  split
  · decide
  · assumption

theorem isStemChar_of_mem_stemOf {s : List Char} {c : Char} (h : c ∈ stemOf s) :
    isStemChar c = true := by
  unfold stemOf at h
  split at h
  · have hmem : c ∈ ['A', 'p', 'p'] := h
    simp only [List.mem_cons, List.not_mem_nil, or_false] at hmem
    rcases hmem with rfl | rfl | rfl <;> decide
  · exact (List.mem_filter.1 h).2

end FileName

end SelfBuild
