import SelfBuild.Text.Search

/-!
# First occurrences

`after?` decides prefixes and `occurs` decides infixes.  `cut?` stops at the first occurrence: the
part before the cut, with all but the last character of the pattern behind it, holds no copy.
-/

namespace SelfBuild

namespace Text

variable {pattern s before rest xs ys : List Char}

/-- What all characters of a text have in common is decided along the text.  Another instance would
go through every character there is. -/
instance (priority := high) decidableForallMem (p : Char → Prop) [DecidablePred p] (s : List Char) :
    Decidable (∀ c ∈ s, p c) :=
  List.decidableBAll p s

theorem after?_append (pattern rest : List Char) :
    after? pattern (pattern ++ rest) = some rest :=
  after?_eq_some_iff.2 rfl

theorem after?_eq_none_iff : after? pattern s = none ↔ ¬ pattern <+: s := by
  rw [Option.eq_none_iff_forall_ne_some]
  constructor
  · rintro h ⟨rest, hrest⟩
    exact h rest (after?_eq_some_iff.2 hrest.symm)
  · intro h rest hrest
    exact h ⟨rest, (after?_eq_some_iff.1 hrest).symm⟩

/-! ## Infixes -/

/-- A start without the character in the middle lies wholly in front of it. -/
theorem prefix_of_prefix_append_cons {c : Char} (hc : c ∉ pattern) (h : pattern <+: xs ++ c :: ys) :
    pattern <+: xs := by
  induction pattern generalizing xs with
  | nil => exact List.nil_prefix
  | cons p pattern ih =>
      rw [List.mem_cons, not_or] at hc
      cases xs with
      | nil => exact absurd (List.cons_prefix_cons.1 h).1.symm hc.1
      | cons x xs =>
          obtain ⟨rfl, htail⟩ := List.cons_prefix_cons.1 h
          exact List.cons_prefix_cons.2 ⟨rfl, ih hc.2 htail⟩

theorem eq_nil_of_prefix_cons {c : Char} (hc : c ∉ pattern) (h : pattern <+: c :: rest) : pattern = [] :=
  List.prefix_nil.1 (@prefix_of_prefix_append_cons pattern [] rest c hc h)

/-- A pattern without the character in the middle lies wholly on one side of it. -/
theorem infix_append_cons_iff {c : Char} (hc : c ∉ pattern) :
    pattern <:+: xs ++ c :: ys ↔ pattern <:+: xs ∨ pattern <:+: ys := by
  constructor
  · rw [List.infix_append_iff, List.infix_cons_iff]
    rintro (h | (h | h) | ⟨l, r, rfl, hl, hr⟩)
    · exact .inl h
    · cases pattern with
      | nil => exact .inl List.nil_infix
      | cons p pattern =>
          obtain rfl := (List.cons_prefix_cons.1 h).1
          exact absurd List.mem_cons_self hc
    · exact .inr h
    · cases r with
      | nil => exact .inl (by simpa using hl.isInfix)
      | cons d r =>
          obtain rfl := (List.cons_prefix_cons.1 hr).1
          exact absurd (by simp) hc
  · rintro (h | h)
    · exact List.infix_append_of_infix_left h
    · exact List.infix_append_of_infix_right (List.infix_cons h)

/-- A pattern without the separator lies in front of all separators or behind one of them. -/
theorem infix_append_flatMap_cons_iff {c : Char} (hc : c ∉ pattern) (s : List Char)
    (words : List (List Char)) :
    pattern <:+: s ++ words.flatMap (fun word => c :: word) ↔
      pattern <:+: s ∨ ∃ word ∈ words, pattern <:+: word := by
  induction words generalizing s with
  | nil => simp
  | cons word words ih =>
      rw [List.flatMap_cons, List.cons_append, infix_append_cons_iff hc, ih word]
      simp

theorem not_infix_of_not_mem {c : Char} (hp : c ∈ pattern) (hs : c ∉ s) :
    ¬ pattern <:+: s :=
  fun h => hs (h.subset hp)

/-! ## Cuts -/

theorem not_infix_dropLast (hp : pattern ≠ []) : ¬ pattern <:+: pattern.dropLast := by
  intro h
  have hlength := h.length_le
  have hpos := List.length_pos_iff.2 hp
  rw [List.length_dropLast] at hlength
  omega

/-- A pattern that starts a text with another copy further on starts what precedes the end of that
copy. -/
theorem prefix_append_dropLast {c : Char} (h : pattern <+: c :: before ++ pattern ++ rest) :
    pattern <+: c :: before ++ pattern.dropLast := by
  have hbefore : c :: before ++ pattern.dropLast <+: c :: before ++ pattern ++ rest := by
    rw [List.append_assoc, List.prefix_append_right_inj]
    exact (List.dropLast_prefix pattern).trans (List.prefix_append _ _)
  refine List.prefix_of_prefix_length_le h hbefore ?_
  simp only [List.length_append, List.length_cons, List.length_dropLast]
  omega

/-- The first occurrence is where it is expected when no earlier one overlaps it. -/
theorem cut?_append (hp : pattern ≠ [])
    (h : ¬ pattern <:+: before ++ pattern.dropLast) (rest : List Char) :
    cut? pattern (before ++ pattern ++ rest) = some (before, rest) := by
  induction before with
  | nil =>
      cases pattern with
      | nil => exact absurd rfl hp
      | cons p pattern =>
          have hafter := after?_append (p :: pattern) rest
          rw [List.cons_append] at hafter
          simp [cut?, hafter]
  | cons b before ih =>
      have hnone : after? pattern (b :: (before ++ pattern ++ rest)) = none :=
        after?_eq_none_iff.2 fun hstart => h (prefix_append_dropLast hstart).isInfix
      have hrest := ih fun hinner => h (List.infix_cons hinner)
      simp only [List.cons_append, cut?, hnone, hrest, Option.map_some]

theorem not_infix_of_cut? (hp : pattern ≠ []) (h : cut? pattern s = some (before, rest)) :
    ¬ pattern <:+: before ++ pattern.dropLast := by
  induction s generalizing before with
  | nil =>
      cases pattern with
      | nil => exact absurd rfl hp
      | cons p pattern => simp [cut?] at h
  | cons c s ih =>
      have hs := eq_append_of_cut? h
      simp only [cut?] at h
      cases hafter : after? pattern (c :: s) with
      | some found =>
          simp only [hafter, Option.some.injEq, Prod.mk.injEq] at h
          rw [← h.1]
          exact not_infix_dropLast hp
      | none =>
          simp only [hafter] at h
          obtain ⟨⟨tail, found⟩, hcut, heq⟩ := Option.map_eq_some_iff.1 h
          simp only [Prod.mk.injEq] at heq
          obtain ⟨rfl, rfl⟩ := heq
          rw [List.cons_append, List.infix_cons_iff]
          rintro (hstart | hinner)
          · apply after?_eq_none_iff.1 hafter
            have hextend : tail ++ pattern.dropLast <+: tail ++ pattern ++ found := by
              rw [List.append_assoc, List.prefix_append_right_inj]
              exact (List.dropLast_prefix pattern).trans (List.prefix_append _ _)
            rw [hs, List.cons_append, List.cons_append]
            exact hstart.trans (List.cons_prefix_cons.2 ⟨rfl, hextend⟩)
          · exact ih hcut hinner

theorem cut?_eq_some_iff (hp : pattern ≠ []) :
    cut? pattern s = some (before, rest) ↔
      s = before ++ pattern ++ rest ∧ ¬ pattern <:+: before ++ pattern.dropLast := by
  constructor
  · intro h
    exact ⟨eq_append_of_cut? h, not_infix_of_cut? hp h⟩
  · rintro ⟨rfl, h⟩
    exact cut?_append hp h rest

theorem occurs_iff_infix : occurs pattern s = true ↔ pattern <:+: s := by
  induction s with
  | nil => cases pattern <;> simp [occurs, cut?]
  | cons c s ih =>
      rw [List.infix_cons_iff, ← ih]
      simp only [occurs, cut?]
      cases hafter : after? pattern (c :: s) with
      | some found =>
          have hs := after?_eq_some_iff.1 hafter
          have hstart : pattern <+: c :: s := ⟨found, hs.symm⟩
          simp [hstart]
      | none => simp [after?_eq_none_iff.1 hafter]

end Text

end SelfBuild
