import Mathlib.Combinatorics.Enumerative.DyckWord

/-!
# Matching parentheses

In a word of parentheses an opening and a later closing one match when the word between them is a
Dyck word.  A depth that goes up and down along the word, and stays at zero where it would fall below,
knows which ones are left over: a closing parenthesis has no partner exactly when it meets the depth
zero, and the depth at the end counts the opening ones without a partner.
-/

namespace SelfBuild

namespace Lint

variable {w inner : List DyckStep} {c : DyckStep} {i j k depth : Nat}

/-- A word in which every parenthesis has its partner. -/
def Paired (w : List DyckStep) : Prop :=
  ∃ p : DyckWord, p.toList = w

/-- Two places of a word hold partners. -/
def Matches (w : List DyckStep) (i j : Nat) : Prop :=
  i < j ∧ w[i]? = some .U ∧ w[j]? = some .D ∧ Paired ((w.take j).drop (i + 1))

theorem paired_iff : Paired w ↔
    w.count .U = w.count .D ∧ ∀ i ≤ w.length, (w.take i).count .D ≤ (w.take i).count .U := by
  constructor
  · rintro ⟨p, rfl⟩
    exact ⟨p.count_U_eq_count_D, fun i _ => p.count_D_le_count_U i⟩
  · rintro ⟨hcount, hfront⟩
    refine ⟨⟨w, hcount, fun i => ?_⟩, rfl⟩
    rcases Nat.le_total i w.length with hi | hi
    · exact hfront i hi
    · rw [List.take_of_length_le hi]
      exact hcount.ge

instance (w : List DyckStep) : Decidable (Paired w) :=
  decidable_of_iff
    (w.count .U = w.count .D ∧
      ∀ i < w.length + 1, (w.take i).count .D ≤ (w.take i).count .U)
    (by simp only [paired_iff, Nat.lt_succ_iff])

instance (w : List DyckStep) (i j : Nat) : Decidable (Matches w i j) :=
  inferInstanceAs (Decidable (_ ∧ _ ∧ _ ∧ _))

/-- A closing parenthesis without a partner. -/
def ClosesNothing (w : List DyckStep) (j : Nat) : Prop :=
  w[j]? = some .D ∧ ∀ i < j, ¬ Matches w i j

/-- An opening parenthesis without a partner. -/
def StaysOpen (w : List DyckStep) (i : Nat) : Prop :=
  w[i]? = some .U ∧ ∀ j < w.length, ¬ Matches w i j

instance (w : List DyckStep) (j : Nat) : Decidable (ClosesNothing w j) :=
  inferInstanceAs (Decidable (_ ∧ _))

instance (w : List DyckStep) (i : Nat) : Decidable (StaysOpen w i) :=
  inferInstanceAs (Decidable (_ ∧ _))

/-- The places of the closing parentheses without a partner. -/
def unmatchedClosings (w : List DyckStep) : List Nat :=
  (List.range w.length).filter fun j => ClosesNothing w j

/-- The places of the opening parentheses without a partner. -/
def unmatchedOpenings (w : List DyckStep) : List Nat :=
  (List.range w.length).filter fun i => StaysOpen w i

/-! ## Depth -/

/-- The depth behind one more parenthesis; nothing is below zero. -/
def climb (depth : Nat) : DyckStep → Nat
  | .U => depth + 1
  | .D => depth - 1

/-- The depth behind a word. -/
def height (w : List DyckStep) : Nat :=
  w.foldl climb 0

theorem height_concat (w : List DyckStep) (c : DyckStep) :
    height (w ++ [c]) = climb (height w) c :=
  List.foldl_concat ..

/-- Where no prefix goes below zero, the depth is what the counts say. -/
theorem foldl_climb_add_count (depth : Nat) (w : List DyckStep)
    (h : ∀ i ≤ w.length, (w.take i).count .D ≤ depth + (w.take i).count .U) :
    w.foldl climb depth + w.count .D = depth + w.count .U := by
  induction w using List.reverseRecOn with
  | nil => rfl
  | append_singleton w c ih =>
      have hfront : ∀ i ≤ w.length, (w.take i).count .D ≤ depth + (w.take i).count .U := by
        intro i hi
        have htake := h i (by rw [List.length_append]; omega)
        rwa [List.take_append_of_le_length hi] at htake
      have hall := h (w.length + 1) (by simp)
      rw [List.take_of_length_le (by simp), List.count_append, List.count_append] at hall
      have hdepth := ih hfront
      rw [List.foldl_concat, List.count_append, List.count_append]
      cases c <;> simp [climb] at hall ⊢ <;> omega

theorem Paired.foldl_climb (h : Paired w) (depth : Nat) : w.foldl climb depth = depth := by
  obtain ⟨hcount, hfront⟩ := paired_iff.1 h
  have hdepth := foldl_climb_add_count depth w fun i hi => Nat.le_add_left_of_le (hfront i hi)
  omega

theorem paired_nil : Paired [] := ⟨0, rfl⟩

theorem Paired.append {v : List DyckStep} (h : Paired w) (hv : Paired v) : Paired (w ++ v) := by
  obtain ⟨p, rfl⟩ := h
  obtain ⟨q, rfl⟩ := hv
  exact ⟨p + q, rfl⟩

theorem Paired.nest (h : Paired w) : Paired (.U :: w ++ [.D]) := by
  obtain ⟨p, rfl⟩ := h
  exact ⟨p.nest, rfl⟩

/-- Above depth zero, the word goes on behind a last open parenthesis with all partners in place. -/
theorem exists_of_height (h : height w = depth + 1) :
    ∃ front inner, w = front ++ .U :: inner ∧ Paired inner ∧ height front = depth := by
  induction hlength : w.length using Nat.strong_induction_on generalizing w depth with
  | _ n ih =>
      subst hlength
      rcases List.eq_nil_or_concat w with rfl | ⟨v, c, rfl⟩
      · cases h
      · rw [List.concat_eq_append] at h ih ⊢
        rw [height_concat] at h
        cases c with
        | U => exact ⟨v, [], rfl, paired_nil, Nat.succ.inj h⟩
        | D =>
            -- The parenthesis closes the innermost open one, so the next one out is wanted.
            have hdepth : height v = depth + 1 + 1 := by
              simp only [climb] at h
              omega
            obtain ⟨outer, inner, rfl, hinner, houter⟩ := ih v.length (by simp) hdepth rfl
            obtain ⟨front, between, rfl, hbetween, hfront⟩ :=
              ih outer.length (by simp) houter rfl
            exact ⟨front, between ++ (.U :: inner ++ [.D]), by simp, hbetween.append hinner.nest,
              hfront⟩

/-! ## Partners -/

theorem take_concat_of_lt (hj : j < w.length) : (w ++ [c]).take j = w.take j :=
  List.take_append_of_le_length hj.le

/-- Partners are partners in every longer word too. -/
theorem matches_concat_iff (hj : j < w.length) : Matches (w ++ [c]) i j ↔ Matches w i j := by
  unfold Matches
  rw [take_concat_of_lt hj, List.getElem?_append_left hj]
  refine and_congr_right fun hij => ?_
  rw [List.getElem?_append_left (hij.trans hj)]

theorem matches_end_iff :
    Matches (w ++ [.D]) i w.length ↔ w[i]? = some .U ∧ Paired (w.drop (i + 1)) := by
  unfold Matches
  rw [List.take_left, List.getElem?_concat_length]
  constructor
  · rintro ⟨hi, hopen, -, hpaired⟩
    rw [List.getElem?_append_left hi] at hopen
    exact ⟨hopen, hpaired⟩
  · rintro ⟨hopen, hpaired⟩
    obtain ⟨hi, -⟩ := List.getElem?_eq_some_iff.1 hopen
    rw [List.getElem?_append_left hi]
    exact ⟨hi, hopen, rfl, hpaired⟩

/-- A closing parenthesis has a partner exactly when it does not meet the depth zero. -/
theorem exists_matches_end_iff : (∃ i, Matches (w ++ [.D]) i w.length) ↔ 0 < height w := by
  simp only [matches_end_iff]
  constructor
  · rintro ⟨i, hopen, hpaired⟩
    obtain ⟨hi, hget⟩ := List.getElem?_eq_some_iff.1 hopen
    have hsplit : w = w.take i ++ [.U] ++ w.drop (i + 1) := by
      rw [← hget, List.take_concat_get', List.take_append_drop]
    rw [hsplit, height, List.foldl_append, hpaired.foldl_climb, List.foldl_concat]
    exact Nat.succ_pos _
  · intro hpos
    obtain ⟨front, inner, rfl, hinner, -⟩ := exists_of_height (Nat.succ_pred_eq_of_pos hpos).symm
    exact ⟨front.length, by simp, by simpa using hinner⟩

/-- What stands between two places of a word falls into parts at each place between them. -/
theorem between_eq_append {i j k : Nat} (hik : i ≤ k) (hkj : k < j) (hk : w[k]? = some c) :
    (w.take j).drop i = (w.take k).drop i ++ c :: (w.take j).drop (k + 1) := by
  obtain ⟨hlt, hget⟩ := List.getElem?_eq_some_iff.1 hk
  have hlength : k < (w.take j).length := by
    rw [List.length_take]
    omega
  have hhead : (w.take j)[k] = c := by rw [List.getElem_take, hget]
  have hsplit : w.take j = w.take k ++ c :: (w.take j).drop (k + 1) := by
    conv_lhs => rw [← List.take_append_drop k (w.take j), List.drop_eq_getElem_cons hlength, hhead,
      List.take_take, Nat.min_eq_left hkj.le]
  conv_lhs => rw [hsplit]
  rw [List.drop_append_of_le_length]
  rw [List.length_take]
  omega

theorem Paired.not_paired_of_open {u v : List DyckStep} (h : Paired (u ++ .U :: v)) : ¬ Paired v := by
  intro hv
  have hall := (paired_iff.1 h).1
  have hrest := (paired_iff.1 hv).1
  have hfront := (paired_iff.1 h).2 u.length (by simp)
  rw [List.take_left] at hfront
  simp only [List.count_append, List.count_cons_self, List.count_cons_of_ne (by simp : DyckStep.U ≠ .D)]
    at hall
  omega

theorem Paired.not_paired_of_close {u v : List DyckStep} (h : Paired (u ++ .D :: v)) : ¬ Paired u := by
  intro hu
  have hfront := (paired_iff.1 hu).1
  have hover := (paired_iff.1 h).2 (u.length + 1) (by simp)
  have htake : (u ++ .D :: v).take (u.length + 1) = u ++ [.D] := by simp [List.take_append]
  rw [htake, List.count_append, List.count_append, List.count_singleton_self] at hover
  have hnone : [DyckStep.D].count .U = 0 := rfl
  omega

/-- A parenthesis has one partner at most. -/
theorem Matches.left_unique (hi : Matches w i j) (hk : Matches w k j) : i = k := by
  by_contra hne
  wlog hlt : i < k generalizing i k
  · exact this hk hi (Ne.symm hne) (by omega)
  have hpaired := hi.2.2.2
  rw [between_eq_append hlt hk.1 hk.2.1] at hpaired
  exact hpaired.not_paired_of_open hk.2.2.2

theorem Matches.right_unique (hj : Matches w i j) (hk : Matches w i k) : j = k := by
  by_contra hne
  wlog hlt : j < k generalizing j k
  · exact this hk hj (Ne.symm hne) (by omega)
  have hpaired := hk.2.2.2
  rw [between_eq_append hj.1 hlt hj.2.2.1] at hpaired
  exact hpaired.not_paired_of_close hj.2.2.2

/-! ## What is left over -/

theorem filter_range_succ {n : Nat} {p q : Nat → Prop} [DecidablePred p] [DecidablePred q]
    (h : ∀ j < n, p j ↔ q j) :
    (List.range (n + 1)).filter (p ·) =
      (List.range n).filter (q ·) ++ if p n then [n] else [] := by
  rw [List.range_succ, List.filter_append]
  congr 1
  · refine List.filter_congr fun j hj => ?_
    rw [decide_eq_decide]
    exact h j (List.mem_range.1 hj)
  · by_cases hp : p n <;> simp [hp]

theorem closesNothing_concat_iff (hj : j < w.length) :
    ClosesNothing (w ++ [c]) j ↔ ClosesNothing w j := by
  unfold ClosesNothing
  simp only [matches_concat_iff hj, List.getElem?_append_left hj]

theorem unmatchedClosings_concat_open (w : List DyckStep) :
    unmatchedClosings (w ++ [.U]) = unmatchedClosings w := by
  have hlast : ¬ ClosesNothing (w ++ [.U]) w.length := by
    rintro ⟨hclose, -⟩
    simp at hclose
  unfold unmatchedClosings
  rw [List.length_append, List.length_singleton, filter_range_succ fun j => closesNothing_concat_iff,
    if_neg hlast, List.append_nil]

theorem unmatchedClosings_concat_close (w : List DyckStep) :
    unmatchedClosings (w ++ [.D]) =
      unmatchedClosings w ++ if height w = 0 then [w.length] else [] := by
  have hlast : ClosesNothing (w ++ [.D]) w.length ↔ height w = 0 := by
    constructor
    · rintro ⟨-, hnone⟩
      by_contra hheight
      obtain ⟨i, hi⟩ := exists_matches_end_iff.2 (Nat.pos_of_ne_zero hheight)
      exact hnone i hi.1 hi
    · intro hheight
      refine ⟨List.getElem?_concat_length, fun i _ hi => ?_⟩
      exact absurd (exists_matches_end_iff.1 ⟨i, hi⟩) (by simp [hheight])
  unfold unmatchedClosings
  rw [List.length_append, List.length_singleton, filter_range_succ fun j => closesNothing_concat_iff]
  simp only [hlast]

theorem staysOpen_concat_iff (hi : i < w.length) :
    StaysOpen (w ++ [c]) i ↔ StaysOpen w i ∧ ¬ Matches (w ++ [c]) i w.length := by
  unfold StaysOpen
  rw [List.getElem?_append_left hi, and_assoc]
  refine and_congr_right fun _ => ?_
  rw [List.length_append, List.length_singleton, Nat.forall_lt_succ_right]
  refine and_congr_left fun _ => forall₂_congr fun j hj => ?_
  rw [matches_concat_iff hj]

theorem unmatchedOpenings_concat_open (w : List DyckStep) :
    unmatchedOpenings (w ++ [.U]) = unmatchedOpenings w ++ [w.length] := by
  have hnone (i : Nat) : ¬ Matches (w ++ [.U]) i w.length := by
    rintro ⟨-, -, hclose, -⟩
    simp at hclose
  have hlast : StaysOpen (w ++ [.U]) w.length := by
    refine ⟨List.getElem?_concat_length, fun j hj hmatch => ?_⟩
    have hlt := hmatch.1
    rw [List.length_append, List.length_singleton] at hj
    omega
  unfold unmatchedOpenings
  rw [List.length_append, List.length_singleton, filter_range_succ (q := StaysOpen w), if_pos hlast]
  intro i hi
  simp [staysOpen_concat_iff hi, hnone]

theorem unmatchedOpenings_concat_close (w : List DyckStep) :
    unmatchedOpenings (w ++ [.D]) =
      (unmatchedOpenings w).filter fun i => ¬ Matches (w ++ [.D]) i w.length := by
  have hlast : ¬ StaysOpen (w ++ [.D]) w.length := by
    rintro ⟨hopen, -⟩
    simp at hopen
  unfold unmatchedOpenings
  rw [List.length_append, List.length_singleton,
    filter_range_succ (q := fun i => StaysOpen w i ∧ ¬ Matches (w ++ [.D]) i w.length)
      fun i => staysOpen_concat_iff,
    if_neg hlast, List.append_nil, List.filter_filter]
  simp only [Bool.decide_and, Bool.and_comm]

theorem mem_unmatchedOpenings_of_matches (h : Matches (w ++ [.D]) i w.length) :
    i ∈ unmatchedOpenings w := by
  have hopen := (matches_end_iff.1 h).1
  refine List.mem_filter.2 ⟨List.mem_range.2 h.1, decide_eq_true ⟨hopen, fun j hj hmatch => ?_⟩⟩
  exact absurd (((matches_concat_iff hj).2 hmatch).right_unique h) hj.ne

/-- The depth behind a word counts the parentheses that stay open. -/
theorem length_unmatchedOpenings (w : List DyckStep) : (unmatchedOpenings w).length = height w := by
  induction w using List.reverseRecOn with
  | nil => rfl
  | append_singleton w c ih =>
      rw [height_concat, ← ih]
      cases c with
      | U => simp [unmatchedOpenings_concat_open, climb]
      | D =>
          rw [unmatchedOpenings_concat_close]
          by_cases hmatch : ∃ i, Matches (w ++ [.D]) i w.length
          · obtain ⟨i, hi⟩ := hmatch
            have hsame : ((unmatchedOpenings w).filter fun k => ¬ Matches (w ++ [.D]) k w.length) =
                (unmatchedOpenings w).erase i := by
              have hnodup : (unmatchedOpenings w).Nodup := List.nodup_range.filter _
              rw [hnodup.erase_eq_filter]
              refine List.filter_congr fun k _ => ?_
              have hiff : Matches (w ++ [.D]) k w.length ↔ k = i :=
                ⟨fun hk => hk.left_unique hi, fun hk => hk ▸ hi⟩
              simp [hiff, bne, beq_eq_decide]
            rw [hsame, List.length_erase_of_mem (mem_unmatchedOpenings_of_matches hi)]
            rfl
          · have hheight : (unmatchedOpenings w).length = 0 := by
              rw [ih]
              exact Nat.eq_zero_of_not_pos fun hpos => hmatch (exists_matches_end_iff.2 hpos)
            simp [List.length_eq_zero_iff.1 hheight, climb]

theorem unmatchedClosings_initial_append (u v : List DyckStep) :
    unmatchedClosings u <+: unmatchedClosings (u ++ v) := by
  induction v using List.reverseRecOn with
  | nil => simp
  | append_singleton v c ih =>
      rw [← List.append_assoc]
      cases c with
      | U => rwa [unmatchedClosings_concat_open]
      | D =>
          rw [unmatchedClosings_concat_close]
          exact ih.trans (List.prefix_append _ _)

/-- What the depth and the closing parentheses come to is what the opening ones and the closings without
a partner come to. -/
theorem height_add_count (w : List DyckStep) :
    height w + w.count .D = w.count .U + (unmatchedClosings w).length := by
  induction w using List.reverseRecOn with
  | nil => rfl
  | append_singleton w c ih =>
      rw [height_concat, List.count_append, List.count_append]
      cases c with
      | U =>
          rw [unmatchedClosings_concat_open]
          simp [climb]
          omega
      | D =>
          rw [unmatchedClosings_concat_close]
          by_cases hheight : height w = 0
          · simp [climb, hheight]
            omega
          · simp [climb, hheight]
            omega

/-- A word is balanced exactly when nothing is left over in it. -/
theorem paired_iff_unmatched :
    Paired w ↔ unmatchedClosings w = [] ∧ unmatchedOpenings w = [] := by
  rw [← List.length_eq_zero_iff, ← List.length_eq_zero_iff, length_unmatchedOpenings]
  constructor
  · intro h
    have hheight : height w = 0 := h.foldl_climb 0
    have hcount := (paired_iff.1 h).1
    have htotal := height_add_count w
    omega
  · rintro ⟨hclosings, hheight⟩
    have htotal := height_add_count w
    refine paired_iff.2 ⟨by omega, fun i _ => ?_⟩
    have hfront := (unmatchedClosings_initial_append (w.take i) (w.drop i)).length_le
    rw [List.take_append_drop] at hfront
    have hpart := height_add_count (w.take i)
    omega

end Lint

end SelfBuild
