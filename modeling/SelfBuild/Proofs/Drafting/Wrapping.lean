import SelfBuild.Proofs.Drafting.Fences
import SelfBuild.Proofs.Text.Occurrence

/-!
# Code between fences

Taking a fence out joins what stands on its two sides, and yet no new fence comes about: a backtick is kept
only where fewer than three of them stand, and what follows it up to the next other character is kept with it.
So stripping leaves no fence behind and a second time changes nothing, and code that is put between two
fences comes out as it went in, but for the blanks at its ends.
-/

namespace SelfBuild

namespace Drafting

variable {s code written tag : List Char} {c : Char}

theorem fence?_eq_none_iff : fence? s = none ↔ ¬ ticks <+: s := by
  constructor
  · rintro h ⟨rest, rfl⟩
    rw [fence?_ticks_append] at h
    cases h
  · intro h
    by_contra hne
    obtain ⟨rest, rfl⟩ := exists_eq_ticks_append hne
    exact h (List.prefix_append _ _)

/-! ## No fence is left -/

/-- Where no fence starts, the backticks at the start of what is kept were there before. -/
theorem prefix_of_prefix_removeFences {n : Nat} (h : ¬ ticks <+: s)
    (hkept : List.replicate n backtick <+: removeFences 0 s) : List.replicate n backtick <+: s := by
  induction n generalizing s with
  | zero => exact List.nil_prefix
  | succ n ih =>
      cases s with
      | nil => exact hkept
      | cons c s =>
          rw [removeFences_of_fence?_eq_none (fence?_eq_none_iff.2 h), List.replicate_succ] at hkept
          rw [List.replicate_succ]
          obtain ⟨rfl, hrest⟩ := List.cons_prefix_cons.1 hkept
          have hnot : ¬ ticks <+: s := by
            rintro ⟨more, rfl⟩
            exact h ⟨backtick :: more, rfl⟩
          exact List.cons_prefix_cons.2 ⟨rfl, ih hnot hrest⟩

theorem not_infix_removeFences (skip : Nat) (s : List Char) : ¬ ticks <:+: removeFences skip s := by
  induction skip, s using removeFences.induct with
  | case1 skip =>
      rw [removeFences]
      decide
  | case2 skip c rest ih => exact ih
  | case3 c rest length hfence ih =>
      rw [removeFences, hfence]
      exact ih
  | case4 c rest hfence ih =>
      have hnot := fence?_eq_none_iff.1 hfence
      have hkept := removeFences_of_fence?_eq_none hfence
      rw [hkept, List.infix_cons_iff, ← hkept]
      rintro (hstart | hinner)
      · exact hnot (prefix_of_prefix_removeFences hnot hstart)
      · exact ih hinner

theorem not_infix_stripFences (s : List Char) : ¬ ticks <:+: stripFences s :=
  fun h => not_infix_removeFences 0 s (h.trans (Text.trim_infix _))

/-! ## Text without fences is kept -/

/-- A text without fences is kept up to a character that no fence can reach across. -/
theorem removeFences_append_cons (h : ¬ ticks <:+: code) (hc : c ≠ backtick) (rest : List Char) :
    removeFences 0 (code ++ c :: rest) = code ++ c :: removeFences 0 rest := by
  have hticks : c ∉ ticks := fun hmem => hc (List.eq_of_mem_replicate hmem)
  have hnone (xs : List Char) (hxs : ¬ ticks <:+: xs) : fence? (xs ++ c :: rest) = none :=
    fence?_eq_none_iff.2 fun hstart => hxs (Text.prefix_of_prefix_append_cons hticks hstart).isInfix
  induction code with
  | nil => exact removeFences_of_fence?_eq_none (hnone [] h)
  | cons d code ih =>
      have hfence : fence? (d :: (code ++ c :: rest)) = none := hnone (d :: code) h
      have hrest := ih fun hinner => h (List.infix_cons hinner)
      rw [List.cons_append, removeFences_of_fence?_eq_none hfence, hrest, List.cons_append]

theorem removeFences_eq_self (h : ¬ ticks <:+: s) : removeFences 0 s = s := by
  induction s with
  | nil => rfl
  | cons c s ih =>
      have hfence := fence?_eq_none_iff.2 fun hstart => h hstart.isInfix
      rw [removeFences_of_fence?_eq_none hfence, ih fun hinner => h (List.infix_cons hinner)]

/-- A line feed is part of no tag, so a fence ends with the tag in front of it. -/
theorem removeFences_tagged (htag : tag ∈ [] :: fenceTags) (hwritten : Spells tag written)
    (rest : List Char) :
    removeFences 0 (ticks ++ (written ++ '\n' :: rest)) = removeFences 0 ('\n' :: rest) := by
  have hfeed (letter : Char) (hletter : letter = 'c' ∨ letter = 'h') (tag : List Char) :
      startsWithTag (letter :: tag) ('\n' :: rest) = false := by
    rw [startsWithTag, isCaseOf_eq_false hletter (.inl rfl), Bool.false_and]
  rw [removeFences_ticks_append, tagOf_append hfeed htag hwritten, hwritten.length_eq, List.drop_left]

theorem stripFences_stripFences (s : List Char) : stripFences (stripFences s) = stripFences s := by
  conv_lhs => rw [stripFences, removeFences_eq_self (not_infix_stripFences s)]
  exact Text.trim_trim _

/-- Stripped text has no fence in it and is not changed by stripping it once more.  Code without fences
that is put between two of them, the first with any of the tags in any case, is what stripping leaves, but
for the blanks at its ends. -/
theorem stripFences_stable (s : List Char) :
    ¬ ticks <:+: stripFences s ∧ stripFences (stripFences s) = stripFences s ∧
      ∀ code tag written, ¬ ticks <:+: code → tag ∈ [] :: fenceTags → Spells tag written →
        stripFences (ticks ++ (written ++ '\n' :: (code ++ '\n' :: ticks))) = Text.trim code := by
  refine ⟨not_infix_stripFences s, stripFences_stripFences s,
    fun code tag written hcode htag hwritten => ?_⟩
  have hline : ¬ ticks <:+: '\n' :: code := by
    intro h
    rcases List.infix_cons_iff.1 h with h | h
    · exact absurd (List.cons_prefix_cons.1 h).1 (by decide)
    · exact hcode h
  have hlast : removeFences 0 ticks = [] := by decide
  rw [stripFences, removeFences_tagged htag hwritten, ← List.cons_append,
    removeFences_append_cons hline (by decide), hlast]
  have hfeed : ∀ c ∈ ['\n'], Text.isBlank c = true := by decide
  exact Text.trim_blank_append_blank hfeed hfeed code

/-- Code that starts with a tag and ends with backticks, behind a tag in capitals. -/
theorem stripFences_stable_of_tagged :
    let code := " cs\n".toList ++ [backtick, 'x', backtick, backtick]
    ¬ ticks <:+: code ∧ "csharp".toList ∈ [] :: fenceTags ∧ Spells "csharp".toList "CSharp".toList ∧
      stripFences (ticks ++ ("CSharp".toList ++ '\n' :: (code ++ '\n' :: ticks))) =
        "cs\n".toList ++ [backtick, 'x', backtick, backtick] := by
  intro code
  have hcode : ¬ ticks <:+: code := by decide +kernel
  have htag : "csharp".toList ∈ [] :: fenceTags := by decide
  have hspells : Spells "csharp".toList "CSharp".toList := by
    refine .cons ?_ (.cons ?_ (.cons ?_ (.cons ?_ (.cons ?_ (.cons ?_ .nil))))) <;> decide
  obtain ⟨-, -, hunwrap⟩ := stripFences_stable []
  have htrim : Text.trim code = "cs\n".toList ++ [backtick, 'x', backtick, backtick] := by
    decide +kernel
  exact ⟨hcode, htag, hspells, (hunwrap code _ _ hcode htag hspells).trans htrim⟩

/-! ## Wide texts -/

theorem removePointFences_sublist (skip : Nat) (points : List Point) :
    List.Sublist (removePointFences skip points) points := by
  induction skip, points using removePointFences.induct with
  | case1 skip => rw [removePointFences]
  | case2 skip point rest ih => exact ih.cons point
  | case3 point rest length hfence ih =>
      rw [removePointFences, hfence]
      exact ih.cons point
  | case4 point rest hfence ih =>
      rw [removePointFences, hfence]
      exact ih.cons_cons point

theorem removeFences_sublist (skip : Nat) (s : List Char) : List.Sublist (removeFences skip s) s := by
  have hpoints : (s.map Point.char).map Point.seen = s := by
    rw [List.map_map]
    exact List.map_id s
  have hkept := (removePointFences_sublist skip (s.map Point.char)).map Point.seen
  rwa [map_seen_removePointFences, hpoints] at hkept

theorem points_codeOf_sublist (text : WideText) : List.Sublist (codeOf text).points text.points := by
  cases text with
  | plain s =>
      rw [codeOf, WideText.points, String.toList_ofList]
      exact ((Text.trim_infix _).sublist.trans (removeFences_sublist 0 s.toList)).map Point.char
  | loose t =>
      rw [codeOf, WideText.points_ofPoints]
      refine List.Sublist.trans ?_ (removePointFences_sublist 0 t.points)
      rw [← List.reverse_sublist, List.reverse_reverse]
      exact (List.dropWhile_sublist _).trans (List.reverse_sublist.2 (List.dropWhile_sublist _))

/-- Code that is looked for again is found as it is, also where it is no plain text. -/
theorem codeOf_codeOf (text : WideText) : codeOf (codeOf text) = codeOf text := by
  refine WideText.points_injective ((points_codeOf_sublist _).eq_of_length ?_)
  have hlength (text : WideText) : text.points.length = text.toList.length := by
    rw [← WideText.map_seen_points, List.length_map]
  rw [hlength, hlength, toList_codeOf, toList_codeOf, stripFences_stripFences]

end Drafting

end SelfBuild
