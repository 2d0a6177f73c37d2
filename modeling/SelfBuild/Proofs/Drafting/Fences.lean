import Mathlib.Data.List.Forall2
import SelfBuild.Drafting.Fences
import SelfBuild.Proofs.Text.Trim
import SelfBuild.Proofs.Text.Wide

/-!
# What removing fences leaves

Removing fences goes from one fence to the next, each with the tag that is written behind it, and keeps
everything else.  So all that is left of a text is blank exactly when the text is a row of fences and blanks.
-/

namespace SelfBuild

namespace Drafting

variable {s rest written tag : List Char} {letter c : Char}

/-- Three backticks. -/
def ticks : List Char := List.replicate 3 backtick

/-- A tag as it is written, each letter in one of its forms. -/
def Spells (tag written : List Char) : Prop :=
  List.Forall₂ (fun letter c => isCaseOf letter c = true) tag written

/-- A text of fences and blanks alone. -/
inductive Hollow : List Char → Prop
  | nil : Hollow []
  | blank {c : Char} {s : List Char} (hc : Text.isBlank c = true) (h : Hollow s) : Hollow (c :: s)
  | fence {tag written s : List Char} (htag : tag ∈ [] :: fenceTags) (hwritten : Spells tag written)
      (h : Hollow s) : Hollow (ticks ++ (written ++ s))

/-- The tag that a fence takes from the text behind it. -/
def tagOf (s : List Char) : List Char :=
  (fenceTags.find? fun tag => startsWithTag tag s).getD []

/-! ## Tags -/

theorem startsWithTag_append (h : Spells tag written) (more s : List Char) :
    startsWithTag (tag ++ more) (written ++ s) = startsWithTag more s := by
  induction h with
  | nil => rfl
  | cons hletter _ ih => simp only [List.cons_append, startsWithTag, hletter, ih, Bool.true_and]

theorem exists_spells_of_startsWithTag (h : startsWithTag tag s = true) :
    ∃ written rest, s = written ++ rest ∧ Spells tag written := by
  induction tag generalizing s with
  | nil => exact ⟨[], s, rfl, .nil⟩
  | cons letter tag ih =>
      cases s with
      | nil => cases h
      | cons c s =>
          rw [startsWithTag, Bool.and_eq_true] at h
          obtain ⟨written, rest, rfl, hspells⟩ := ih h.2
          exact ⟨c :: written, rest, rfl, .cons h.1 hspells⟩

theorem exists_letter_of_mem (h : Spells tag written) (hc : c ∈ written) :
    ∃ letter ∈ tag, isCaseOf letter c = true := by
  induction h with
  | nil => cases hc
  | @cons letter _ _ _ hletter _ ih =>
      rcases List.mem_cons.1 hc with rfl | hrest
      · exact ⟨letter, List.mem_cons_self, hletter⟩
      · obtain ⟨other, hother, hcase⟩ := ih hrest
        exact ⟨other, List.mem_cons_of_mem _ hother, hcase⟩

theorem exists_spells_tagOf (s : List Char) :
    tagOf s ∈ [] :: fenceTags ∧ ∃ written rest, s = written ++ rest ∧ Spells (tagOf s) written := by
  unfold tagOf
  cases hfind : fenceTags.find? fun tag => startsWithTag tag s with
  | none => exact ⟨List.mem_cons_self, [], s, rfl, .nil⟩
  | some tag =>
      have hstarts : startsWithTag tag s = true :=
        List.find?_some (p := fun tag => startsWithTag tag s) hfind
      exact ⟨List.mem_cons_of_mem _ (List.mem_of_find?_eq_some hfind),
        exists_spells_of_startsWithTag hstarts⟩

/-! ## One fence after the other -/

theorem fence?_ticks_append (s : List Char) : fence? (ticks ++ s) = some (3 + (tagOf s).length) := by
  have hticks : (List.replicate 3 backtick).isPrefixOf (ticks ++ s) = true :=
    List.isPrefixOf_iff_prefix.2 (List.prefix_append _ _)
  have hdrop : (ticks ++ s).drop 3 = s := rfl
  rw [fence?, if_pos hticks, hdrop, tagOf]
  cases fenceTags.find? fun tag => startsWithTag tag s <;> rfl

theorem exists_eq_ticks_append (h : fence? s ≠ none) : ∃ rest, s = ticks ++ rest := by
  unfold fence? at h
  split at h
  · rename_i hticks
    obtain ⟨rest, hrest⟩ := List.isPrefixOf_iff_prefix.1 hticks
    exact ⟨rest, hrest.symm⟩
  · exact absurd rfl h

theorem removeFences_eq_drop (skip : Nat) (s : List Char) :
    removeFences skip s = removeFences 0 (s.drop skip) := by
  induction s generalizing skip with
  | nil => cases skip <;> rfl
  | cons c s ih =>
      cases skip with
      | zero => rfl
      | succ skip => rw [removeFences, ih, List.drop_succ_cons]

theorem removeFences_ticks_append (s : List Char) :
    removeFences 0 (ticks ++ s) = removeFences 0 (s.drop (tagOf s).length) := by
  have hfence := fence?_ticks_append s
  have hcons : ticks ++ s = backtick :: backtick :: backtick :: s := rfl
  rw [hcons] at hfence ⊢
  rw [removeFences, hfence]
  dsimp only
  rw [removeFences_eq_drop, show 3 + (tagOf s).length - 1 = (tagOf s).length + 2 by omega]
  rfl

theorem removeFences_of_fence?_eq_none (h : fence? (c :: s) = none) :
    removeFences 0 (c :: s) = c :: removeFences 0 s := by
  rw [removeFences, h]

/-! ## Fences and blanks -/

theorem toLower_of_isBlank (h : Text.isBlank c = true) : c.toLower = c := by
  have hnot : ¬ (c.val ≥ 'A'.val ∧ c.val ≤ 'Z'.val) := by
    rintro ⟨hlow, hhigh⟩
    have hlow' : 65 ≤ c.toNat := hlow
    have hhigh' : c.toNat ≤ 90 := hhigh
    simp only [Text.isBlank, Bool.or_eq_true, Bool.and_eq_true, decide_eq_true_eq, beq_iff_eq] at h
    omega
  exact dif_neg hnot

/-- No letter of a tag is blank or a backtick. -/
theorem isCaseOf_eq_false (hletter : letter = 'c' ∨ letter = 'h')
    (hc : Text.isBlank c = true ∨ c = backtick) : isCaseOf letter c = false := by
  rcases hc with hblank | rfl
  · have hne : c ≠ letter := by
      rintro rfl
      rcases hletter with rfl | rfl <;> cases hblank
    have hlong : letter ≠ 's' := by rcases hletter with rfl | rfl <;> decide
    simp [isCaseOf, toLower_of_isBlank hblank, hne, hlong]
  · rcases hletter with rfl | rfl <;> decide

theorem Hollow.startsWithTag_eq_false (h : Hollow s) (hletter : letter = 'c' ∨ letter = 'h')
    (tag : List Char) : startsWithTag (letter :: tag) s = false := by
  cases h with
  | nil => rfl
  | blank hc _ => rw [startsWithTag, isCaseOf_eq_false hletter (.inl hc), Bool.false_and]
  | fence _ _ _ =>
      show (isCaseOf letter backtick && _) = false
      rw [isCaseOf_eq_false hletter (.inr rfl), Bool.false_and]

/-- A sharp is no form of an `s`. -/
theorem isCaseOf_s_of_sharp (h : isCaseOf '#' c = true) : isCaseOf 's' c = false := by
  have hlower : c.toLower = '#' := by simpa [isCaseOf] using h
  have hlong : c ≠ 'ſ' := by
    rintro rfl
    exact absurd hlower (by decide)
  simp [isCaseOf, hlower, hlong]

/-- A fence takes the longest tag that stands behind it. -/
theorem tagOf_eq (s : List Char) :
    tagOf s =
      if startsWithTag ['c', 's', 'h', 'a', 'r', 'p'] s then ['c', 's', 'h', 'a', 'r', 'p']
      else if startsWithTag ['c', 's'] s then ['c', 's']
      else if startsWithTag ['c', '#'] s then ['c', '#']
      else [] := by
  have htags : fenceTags = [['c', 's', 'h', 'a', 'r', 'p'], ['c', 's'], ['c', '#']] := by decide
  rw [tagOf, htags]
  simp only [List.find?_cons, List.find?_nil]
  cases startsWithTag ['c', 's', 'h', 'a', 'r', 'p'] s with
  | true => rfl
  | false =>
      cases startsWithTag ['c', 's'] s with
      | true => rfl
      | false => cases startsWithTag ['c', '#'] s <;> rfl

/-- The tag that a fence takes is the one that is written there, if no letter of a longer one follows. -/
theorem tagOf_append
    (hs : ∀ letter, letter = 'c' ∨ letter = 'h' → ∀ tag, startsWithTag (letter :: tag) s = false)
    (htag : tag ∈ [] :: fenceTags) (hwritten : Spells tag written) : tagOf (written ++ s) = tag := by
  have htags : [] :: fenceTags = [[], ['c', 's', 'h', 'a', 'r', 'p'], ['c', 's'], ['c', '#']] := by decide
  have hstarts := startsWithTag_append hwritten
  rw [htags] at htag
  simp only [List.mem_cons, List.not_mem_nil, or_false] at htag
  rcases htag with rfl | rfl | rfl | rfl
  · cases hwritten
    have hno := hs 'c' (.inl rfl)
    simp [tagOf_eq, hno]
  · have hyes := hstarts [] s
    rw [List.append_nil] at hyes
    rw [tagOf_eq, hyes]
    rfl
  · have hlong : startsWithTag ['c', 's', 'h', 'a', 'r', 'p'] (written ++ s) = false :=
      (hstarts ['h', 'a', 'r', 'p'] s).trans (hs 'h' (.inr rfl) _)
    have hyes : startsWithTag ['c', 's'] (written ++ s) = true := hstarts [] s
    simp [tagOf_eq, hlong, hyes]
  · have hyes : startsWithTag ['c', '#'] (written ++ s) = true := hstarts [] s
    obtain - | ⟨hc, - | ⟨hsharp, -⟩⟩ := hwritten
    have hno := isCaseOf_s_of_sharp hsharp
    simpa [tagOf_eq, startsWithTag, hno] using hyes

theorem Hollow.tagOf_append (h : Hollow s) (htag : tag ∈ [] :: fenceTags) (hwritten : Spells tag written) :
    tagOf (written ++ s) = tag :=
  Drafting.tagOf_append (fun _ hletter tag => h.startsWithTag_eq_false hletter tag) htag hwritten

theorem hollow_of_allBlank (skip : Nat) (s : List Char)
    (h : Text.allBlank (removeFences skip s) = true) : Hollow (s.drop skip) := by
  induction skip, s using removeFences.induct with
  | case1 skip =>
      rw [List.drop_nil]
      exact .nil
  | case2 skip c rest ih => exact ih h
  | case3 c rest length hfence ih =>
      rw [removeFences, hfence] at h
      obtain ⟨after, hafter⟩ := exists_eq_ticks_append (hfence ▸ Option.some_ne_none _)
      obtain ⟨htag, written, tail, htail, hspells⟩ := exists_spells_tagOf after
      rw [hafter, fence?_ticks_append, Option.some.injEq] at hfence
      subst hfence
      -- What is skipped is the fence without its first backtick, which the scan has taken already.
      have hrest : rest = backtick :: backtick :: after := (List.cons.inj hafter).2
      have hdrop : rest.drop (3 + (tagOf after).length - 1) = tail := by
        rw [hrest, show 3 + (tagOf after).length - 1 = (tagOf after).length + 2 by omega,
          List.drop_succ_cons, List.drop_succ_cons, hspells.length_eq, htail, List.drop_left]
      have hhollow : Hollow tail := hdrop ▸ ih h
      rw [List.drop_zero, hafter, htail]
      exact .fence htag hspells hhollow
  | case4 c rest hfence ih =>
      rw [removeFences_of_fence?_eq_none hfence, Text.allBlank, List.all_cons, Bool.and_eq_true] at h
      exact .blank h.1 (ih h.2)

theorem Hollow.allBlank_removeFences (h : Hollow s) : Text.allBlank (removeFences 0 s) = true := by
  induction h with
  | nil => rfl
  | @blank c s hc h ih =>
      have hfence : fence? (c :: s) = none := by
        refine Decidable.byContradiction fun hne => ?_
        obtain ⟨rest, hrest⟩ := exists_eq_ticks_append hne
        rw [(List.cons.inj hrest).1] at hc
        exact absurd hc (by decide)
      rw [removeFences_of_fence?_eq_none hfence, Text.allBlank, List.all_cons, hc]
      exact ih
  | fence htag hwritten h ih =>
      rw [removeFences_ticks_append, h.tagOf_append htag hwritten, hwritten.length_eq, List.drop_left]
      exact ih

theorem allBlank_removeFences_iff : Text.allBlank (removeFences 0 s) = true ↔ Hollow s :=
  ⟨hollow_of_allBlank 0 s, Hollow.allBlank_removeFences⟩

instance (s : List Char) : Decidable (Hollow s) :=
  decidable_of_iff _ allBlank_removeFences_iff

/-- Nothing is left of fences and blanks, and of every other text something that is not blank. -/
theorem stripFences_cases (s : List Char) :
    Hollow s ∧ stripFences s = [] ∨ ¬ Hollow s ∧ Text.allBlank (stripFences s) = false := by
  rw [stripFences, Text.trim_eq_nil_iff, Text.allBlank_trim, ← allBlank_removeFences_iff]
  cases Text.allBlank (removeFences 0 s) <;> simp

/-! ## Wide texts -/

/-- Points are removed where their characters are. -/
theorem map_seen_removePointFences (skip : Nat) (points : List Point) :
    (removePointFences skip points).map Point.seen = removeFences skip (points.map Point.seen) := by
  induction skip, points using removePointFences.induct with
  | case1 skip => simp [removePointFences, removeFences]
  | case2 skip point rest ih => rwa [removePointFences, List.map_cons, removeFences]
  | case3 point rest length hfence ih =>
      rwa [removePointFences, hfence, List.map_cons, removeFences, hfence]
  | case4 point rest hfence ih =>
      rw [removePointFences, hfence, List.map_cons, List.map_cons, removeFences, hfence]
      exact congrArg _ ih

theorem map_seen_dropWhile (points : List Point) :
    (points.dropWhile isBlankPoint).map Point.seen =
      (points.map Point.seen).dropWhile Text.isBlank := by
  rw [List.dropWhile_map]
  rfl

/-- The code in a text is seen as the code in what is seen of the text. -/
theorem toList_codeOf (text : WideText) : (codeOf text).toList = stripFences text.toList := by
  cases text with
  | plain s => rw [codeOf, WideText.toList_plain, String.toList_ofList, WideText.toList_plain]
  | loose t =>
      rw [codeOf, WideText.toList_ofPoints, List.map_reverse, map_seen_dropWhile, List.map_reverse,
        map_seen_dropWhile, map_seen_removePointFences, stripFences, Text.trim,
        Text.trimRight_eq_rdropWhile]
      rfl

/-- A fence is made of backticks and the letters of a tag. -/
theorem forall_mem_take_of_fence? {length : Nat} (h : fence? s = some length) :
    ∀ c ∈ s.take length, c ≠ Point.replacement := by
  have hletters : ∀ tag ∈ [] :: fenceTags, ∀ letter ∈ tag,
      isCaseOf letter Point.replacement = false := by decide
  obtain ⟨after, rfl⟩ := exists_eq_ticks_append (h ▸ Option.some_ne_none _)
  obtain ⟨htag, written, tail, rfl, hspells⟩ := exists_spells_tagOf after
  rw [fence?_ticks_append, Option.some.injEq, hspells.length_eq] at h
  have htake : (ticks ++ (written ++ tail)).take length = ticks ++ written := by
    rw [← List.append_assoc, List.take_left' (by rw [List.length_append, ← h]; rfl)]
  rw [htake]
  rintro c hc rfl
  rcases List.mem_append.1 hc with hticks | hwritten
  · exact absurd (List.eq_of_mem_replicate hticks) (by decide)
  · obtain ⟨letter, hletter, hcase⟩ := exists_letter_of_mem hspells hwritten
    rw [hletters _ htag letter hletter] at hcase
    cases hcase

/-- Fences have no halves of surrogate pairs, so none is removed with them. -/
theorem any_isSurrogate_removePointFences (skip : Nat) (points : List Point)
    (hskip : (points.take skip).any Point.isSurrogate = false) :
    (removePointFences skip points).any Point.isSurrogate = points.any Point.isSurrogate := by
  induction skip, points using removePointFences.induct with
  | case1 skip => rw [removePointFences]
  | case2 skip point rest ih =>
      rw [List.take_succ_cons, List.any_cons, Bool.or_eq_false_iff] at hskip
      rw [removePointFences, ih hskip.2, List.any_cons, hskip.1, Bool.false_or]
  | case3 point rest length hfence ih =>
      have hseen := forall_mem_take_of_fence? hfence
      have htaken : ((point :: rest).take length).any Point.isSurrogate = false := by
        rw [List.any_eq_false]
        intro taken htaken hsurrogate
        rw [← List.map_cons, ← List.map_take] at hseen
        cases taken with
        | char c => cases hsurrogate
        | surrogate half => exact hseen _ (List.mem_map_of_mem htaken) rfl
      obtain ⟨count, rfl⟩ : ∃ count, length = count + 1 := by
        obtain ⟨after, hafter⟩ := exists_eq_ticks_append (hfence ▸ Option.some_ne_none _)
        rw [hafter, fence?_ticks_append, Option.some.injEq] at hfence
        exact ⟨_, by rw [← hfence, Nat.add_right_comm]⟩
      rw [List.take_succ_cons, List.any_cons, Bool.or_eq_false_iff] at htaken
      rw [removePointFences, hfence]
      dsimp only
      rw [Nat.add_sub_cancel] at ih ⊢
      rw [ih htaken.2, List.any_cons, htaken.1, Bool.false_or]
  | case4 point rest hfence ih =>
      rw [removePointFences, hfence]
      simp only [List.any_cons, ih rfl]

theorem any_isSurrogate_dropWhile (points : List Point) :
    (points.dropWhile isBlankPoint).any Point.isSurrogate = points.any Point.isSurrogate := by
  induction points with
  | nil => rfl
  | cons point points ih =>
      cases hblank : isBlankPoint point with
      | false => rw [List.dropWhile_cons_of_neg (by simp [hblank])]
      | true =>
          rw [List.dropWhile_cons_of_pos hblank, ih, List.any_cons]
          cases point with
          | char c => rfl
          | surrogate half =>
              have hreplacement : Text.isBlank Point.replacement = true := hblank
              exact absurd hreplacement (by decide)

/-- The code in a text is plain exactly if the text is. -/
theorem isPlain_codeOf_iff {text : WideText} : (codeOf text).IsPlain ↔ text.IsPlain := by
  cases text with
  | plain s => exact iff_of_true ⟨_, rfl⟩ ⟨s, rfl⟩
  | loose t =>
      rw [codeOf, WideText.isPlain_ofPoints_iff, WideText.isPlain_iff, List.any_reverse,
        any_isSurrogate_dropWhile, List.any_reverse, any_isSurrogate_dropWhile,
        any_isSurrogate_removePointFences 0 _ rfl]
      rfl

end Drafting

end SelfBuild
