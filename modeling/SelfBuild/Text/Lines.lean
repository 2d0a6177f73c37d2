/-!
# Lines

A line ends at a line feed and nowhere else, so a carriage return stays part of its line.
Reading a text file first turns the other two line ends into line feeds.
-/

namespace SelfBuild

namespace Text

/-- The pieces between line feeds: one more than there are line feeds. -/
def pieces : List Char -> List (List Char)
  | [] => [[]]
  | c :: rest =>
      if c = '\n' then [] :: pieces rest
      else
        match pieces rest with
        | [] => [[c]]
        | piece :: more => (c :: piece) :: more

/-- The lines of a text; a last line feed ends its line and opens no other. -/
def lines (s : List Char) : List (List Char) :=
  if (pieces s).getLast? = some [] then (pieces s).dropLast else pieces s

/-- Write lines one below the other, each with its line feed. -/
def unlines (ls : List (List Char)) : List Char :=
  ls.flatMap fun line => line ++ ['\n']

/-- Turn each carriage return, with the line feed that may follow it, into one line feed. -/
def normalizeEnds : List Char -> List Char
  | [] => []
  | '\r' :: '\n' :: rest => '\n' :: normalizeEnds rest
  | c :: rest => (if c = '\r' then '\n' else c) :: normalizeEnds rest

theorem pieces_ne_nil (s : List Char) : pieces s ≠ [] := by
  cases s with
  | nil => simp [pieces]
  | cons c rest =>
      simp only [pieces]
      split
      · simp
      · split <;> simp

theorem normalizeEnds_of_no_return {s : List Char} (h : '\r' ∉ s) : normalizeEnds s = s := by
  induction s with
  | nil => rfl
  | cons c rest ih =>
      have hc : c ≠ '\r' := fun e => h (by simp [e])
      have hrest : '\r' ∉ rest := fun e => h (by simp [e])
      rw [normalizeEnds.eq_3 c rest (fun _ hc' _ => hc hc')]
      simp [hc, ih hrest]

theorem return_not_mem_normalizeEnds (s : List Char) : '\r' ∉ normalizeEnds s := by
  fun_induction normalizeEnds s with
  | case1 => simp
  | case2 rest ih => simp [ih]
  | case3 c rest _ ih =>
      rw [List.mem_cons, not_or]
      refine ⟨?_, ih⟩
      split
      · decide
      · rename_i hc
        exact fun e => hc e.symm

/-- Only a text without carriage returns is left as it is. -/
theorem normalizeEnds_eq_iff {s : List Char} : normalizeEnds s = s ↔ '\r' ∉ s :=
  ⟨fun h => h ▸ return_not_mem_normalizeEnds s, normalizeEnds_of_no_return⟩

end Text

end SelfBuild
