import Mathlib.Data.List.Infix

/-!
# Characters in their places

What a character means may hang on all that stands before it.  A reader who goes along a text with a state
comes to the same as one who looks back from each place of the text.
-/

namespace SelfBuild

namespace Text

variable {α : Type} {before s : List Char} {c : Char}

/-- The characters of a text, each with what stands before it. -/
def places (s : List Char) : List (List Char × Char) :=
  s.inits.zip s

theorem places_cons (c : Char) (s : List Char) :
    places (c :: s) = ([], c) :: (places s).map fun (before, d) => (c :: before, d) := by
  rw [places, List.inits_cons, List.zip_cons_cons, List.zip_map_left]
  rfl

theorem map_snd_places (s : List Char) : (places s).map Prod.snd = s :=
  List.map_snd_zip (by rw [List.length_inits]; omega)

/-- A place is a cut in front of a character. -/
theorem mem_places : (before, c) ∈ places s ↔ ∃ rest, s = before ++ c :: rest := by
  induction s generalizing before with
  | nil => simp [places]
  | cons d s ih =>
      rw [places_cons, List.mem_cons, List.mem_map]
      cases before with
      | nil => simp [eq_comm]
      | cons b before => simp [← ih, and_comm, eq_comm]

/-- What a reader gives out for a text, character by character, with a state that changes along the text. -/
def readWith (next : α → Char → α) (out : α → Char → List Char) : α → List Char → List Char
  | _, [] => []
  | state, c :: s => out state c ++ readWith next out (next state c) s

theorem readWith_eq_flatMap (next : α → Char → α) (out : α → Char → List Char) (state : α) (s : List Char) :
    readWith next out state s =
      (places s).flatMap fun (before, c) => out (before.foldl next state) c := by
  induction s generalizing state with
  | nil => rfl
  | cons c s ih =>
      rw [readWith, ih, places_cons, List.flatMap_cons, List.flatMap_map]
      rfl

/-- A reader who only leaves characters out. -/
theorem readWith_eq_filter (next : α → Char → α) (keeps : α → Char → Bool) (state : α) (s : List Char) :
    readWith next (fun state c => [c].filter (keeps state)) state s =
      ((places s).filter fun (before, c) => keeps (before.foldl next state) c).map Prod.snd := by
  rw [readWith_eq_flatMap]
  induction places s with
  | nil => rfl
  | cons place rest ih =>
      obtain ⟨before, c⟩ := place
      rw [List.flatMap_cons, ih]
      by_cases hkeeps : keeps (before.foldl next state) c = true <;> simp [hkeeps]

end Text

end SelfBuild
