/-!
# First occurrences

Cutting a text at the first place where a pattern starts.  `cut?` scans from the left, so the part
before the cut is the shortest one that a copy of the pattern follows.
-/

namespace SelfBuild

namespace Text

/-- The rest of a text after a pattern that it starts with. -/
def after? : List Char -> List Char -> Option (List Char)
  | [], s => some s
  | _ :: _, [] => none
  | p :: pattern, c :: s => if p = c then after? pattern s else none

/-- The parts before and after the first occurrence of a pattern. -/
def cut? (pattern : List Char) : List Char -> Option (List Char × List Char)
  | [] =>
      match pattern with
      | [] => some ([], [])
      | _ :: _ => none
  | c :: s =>
      match after? pattern (c :: s) with
      | some rest => some ([], rest)
      | none => (cut? pattern s).map fun (before, rest) => (c :: before, rest)

def occurs (pattern s : List Char) : Bool :=
  (cut? pattern s).isSome

theorem after?_eq_some_iff {pattern s rest : List Char} :
    after? pattern s = some rest ↔ s = pattern ++ rest := by
  induction pattern generalizing s with
  | nil => simp [after?]
  | cons p pattern ih =>
      cases s with
      | nil => simp [after?]
      | cons c s =>
          by_cases h : p = c
          · simp [after?, h, ih]
          · simp only [after?, h, if_false, List.cons_append, List.cons.injEq]
            exact ⟨nofun, fun e => absurd e.1.symm h⟩

theorem eq_append_of_cut? {pattern s before rest : List Char}
    (h : cut? pattern s = some (before, rest)) : s = before ++ pattern ++ rest := by
  induction s generalizing before with
  | nil =>
      cases pattern with
      | nil => simp_all [cut?]
      | cons p pattern => simp [cut?] at h
  | cons c s ih =>
      simp only [cut?] at h
      split at h
      · rename_i found hfound
        simp only [Option.some.injEq, Prod.mk.injEq] at h
        obtain ⟨rfl, rfl⟩ := h
        simpa using after?_eq_some_iff.1 hfound
      · obtain ⟨⟨b, r⟩, hcut, heq⟩ := Option.map_eq_some_iff.1 h
        simp only [Prod.mk.injEq] at heq
        obtain ⟨rfl, rfl⟩ := heq
        simp [ih hcut]

end Text

end SelfBuild
