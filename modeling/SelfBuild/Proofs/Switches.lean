import SelfBuild.FileName
import SelfBuild.Switches

/-!
# The line of switches

The stem of a program stands in one place of the compiler call, between quotes.  What follows it
depends on the options alone and is made of a few words.
-/

namespace SelfBuild

namespace Switches

/-- The words that can follow the name of the program. -/
def vocabulary : List String :=
  ["/target:exe", "/target:winexe", "/platform:ANYCPU", "/platform:X64", "/platform:X86",
    "/optimize+", "/optimize-", "/unsafe"] ++ windowLibraries

/-- The switches after the name of the program. -/
def afterName (options : Options) : List String :=
  (ofOptions options "").arguments.drop 2

/-- The same as characters, each switch after a space. -/
def tail (options : Options) : List Char :=
  (afterName options).flatMap fun word => ' ' :: word.toList

theorem arguments_ofOptions (options : Options) (stem : String) :
    (ofOptions options stem).arguments =
      quiet :: ("/out:\"" ++ stem ++ ".exe\"") :: afterName options := rfl

theorem afterName_subset (options : Options) : afterName options ⊆ vocabulary := by
  rcases options with ⟨_ | _ | _, _ | _, _ | _, _ | _⟩ <;> decide

theorem toList_intercalate_space (first : String) (rest : List String) :
    (" ".intercalate (first :: rest)).toList =
      first.toList ++ rest.flatMap fun word => ' ' :: word.toList := by
  induction rest generalizing first with
  | nil => simp
  | cons second rest ih => simp [String.intercalate_cons_cons, ih]

theorem line_ofOptions (options : Options) (stem : String) :
    (ofOptions options stem).line.toList =
      "/nologo /out:\"".toList ++ stem.toList ++ ".exe\"".toList ++ tail options := by
  rw [line, arguments_ofOptions, toList_intercalate_space, List.flatMap_cons, tail]
  simp [quiet]

/-- A character behind the name of the program is a space or stands in a word. -/
theorem mem_tail {options : Options} {c : Char} (h : c ∈ tail options) :
    c = ' ' ∨ ∃ word ∈ vocabulary, c ∈ word.toList := by
  obtain ⟨word, hword, hc⟩ := List.mem_flatMap.1 h
  rcases List.mem_cons.1 hc with rfl | hc
  · exact .inl rfl
  · exact .inr ⟨word, afterName_subset options hword, hc⟩

end Switches

end SelfBuild
