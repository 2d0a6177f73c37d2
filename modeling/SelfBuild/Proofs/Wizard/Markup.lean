import SelfBuild.Proofs.Text.Occurrence
import SelfBuild.Proofs.Text.Wide
import SelfBuild.Wizard.Markup

/-!
# Reading markup

Escaping is undone by decoding the entities.  A tag that is looked for can start only in the markup of a
page, since the texts shown between it hold no opening bracket; so pieces whose markup never starts it
are passed over as a whole.
-/

namespace SelfBuild

namespace Wizard

variable {pattern s rest : List Char}

/-! ## Entities -/

/-- Decode the entities of the five characters that are escaped. -/
def unescape : List Char → List Char
  | [] => []
  | '&' :: 'a' :: 'm' :: 'p' :: ';' :: rest => '&' :: unescape rest
  | '&' :: 'l' :: 't' :: ';' :: rest => '<' :: unescape rest
  | '&' :: 'g' :: 't' :: ';' :: rest => '>' :: unescape rest
  | '&' :: '#' :: '3' :: '4' :: ';' :: rest => '"' :: unescape rest
  | '&' :: '#' :: '3' :: '9' :: ';' :: rest => Char.ofNat 39 :: unescape rest
  | c :: rest => c :: unescape rest

theorem unescape_cons {c : Char} (h : c ≠ '&') (rest : List Char) :
    unescape (c :: rest) = c :: unescape rest := by
  rw [unescape.eq_7 c rest] <;> exact fun _ hc _ => h hc

theorem unescape_escapeChar_append (c : Char) (rest : List Char) :
    unescape (escapeChar c ++ rest) = c :: unescape rest := by
  unfold escapeChar
  by_cases hamp : c = '&'
  · subst hamp
    rfl
  by_cases hlt : c = '<'
  · subst hlt
    rfl
  by_cases hgt : c = '>'
  · subst hgt
    rfl
  by_cases hquote : c = '"'
  · subst hquote
    rfl
  by_cases hsingle : c = Char.ofNat 39
  · subst hsingle
    rfl
  simp only [hamp, hlt, hgt, hquote, hsingle, if_false]
  exact unescape_cons hamp rest

/-- Decoding gives back what was escaped. -/
theorem unescape_escape (s : List Char) : unescape (escape s) = s := by
  induction s with
  | nil => rfl
  | cons c s ih =>
      have hcons : escape (c :: s) = escapeChar c ++ escape s := rfl
      rw [hcons, unescape_escapeChar_append, ih]

/-! ## Passing over pieces -/

/-- Whether two texts differ before either of them ends. -/
def differ : List Char → List Char → Bool
  | p :: pattern, c :: s => p != c || differ pattern s
  | _, _ => false

/-- Whether a pattern starts nowhere in a text, whatever comes after the text. -/
def startsNowhere (pattern : List Char) : List Char → Bool
  | [] => true
  | c :: s => differ pattern (c :: s) && startsNowhere pattern s

theorem after?_append_of_differ (h : differ pattern s = true) (rest : List Char) :
    Text.after? pattern (s ++ rest) = none := by
  induction pattern generalizing s with
  | nil => simp [differ] at h
  | cons p pattern ih =>
      cases s with
      | nil => simp [differ] at h
      | cons c s =>
          by_cases hpc : p = c
          · subst hpc
            simp only [differ, bne_self_eq_false, Bool.false_or] at h
            simp [Text.after?, ih h]
          · simp [Text.after?, hpc]

theorem differ_append (h : differ pattern s = true) (rest : List Char) :
    differ pattern (s ++ rest) = true := by
  induction pattern generalizing s with
  | nil => simp [differ] at h
  | cons p pattern ih =>
      cases s with
      | nil => simp [differ] at h
      | cons c s =>
          simp only [differ, Bool.or_eq_true] at h
          rw [List.cons_append, differ, Bool.or_eq_true]
          exact h.imp_right fun hrest => ih hrest

theorem startsNowhere_append {t : List Char} (h : startsNowhere pattern s = true)
    (h' : startsNowhere pattern t = true) : startsNowhere pattern (s ++ t) = true := by
  induction s with
  | nil => exact h'
  | cons c s ih =>
      simp only [startsNowhere, Bool.and_eq_true] at h
      rw [List.cons_append, startsNowhere, ← List.cons_append, differ_append h.1 t, ih h.2]
      rfl

theorem startsNowhere_flatMap {α : Type} {items : List α} {f : α → List Char}
    (h : ∀ item ∈ items, startsNowhere pattern (f item) = true) :
    startsNowhere pattern (items.flatMap f) = true := by
  induction items with
  | nil => rfl
  | cons item items ih =>
      rw [List.forall_mem_cons] at h
      exact startsNowhere_append h.1 (ih h.2)

theorem cut?_append_of_startsNowhere (h : startsNowhere pattern s = true) (rest : List Char) :
    Text.cut? pattern (s ++ rest) =
      (Text.cut? pattern rest).map fun (before, after) => (s ++ before, after) := by
  induction s with
  | nil => simp
  | cons c s ih =>
      simp only [startsNowhere, Bool.and_eq_true] at h
      have hafter := after?_append_of_differ h.1 rest
      rw [List.cons_append] at hafter ⊢
      simp only [Text.cut?, hafter, ih h.2, Option.map_map, Function.comp_def, List.cons_append]

/-- A pattern starts nowhere in a text without its first character. -/
theorem startsNowhere_of_not_mem {p : Char} (h : p ∉ s) : startsNowhere (p :: pattern) s = true := by
  induction s with
  | nil => rfl
  | cons c s ih =>
      rw [List.mem_cons, not_or] at h
      simp [startsNowhere, differ, h.1, ih h.2]

theorem startsNowhere_shown (text : WideText) :
    startsNowhere ('<' :: pattern) (Piece.shown text).chars = true :=
  startsNowhere_of_not_mem (lt_not_mem_escape text.toList)

/-- For fixed texts the question is decided on their characters. -/
theorem startsNowhere_literal {p : List Char} (h : startsNowhere p s = true) :
    startsNowhere (String.ofList p).toList (String.ofList s).toList = true := by
  rwa [String.toList_ofList, String.toList_ofList]

/-- A row of pieces in which a pattern starts nowhere is passed over. -/
theorem cut?_render_append {pieces : List Piece}
    (h : ∀ piece ∈ pieces, startsNowhere pattern piece.chars = true) (rest : List Char) :
    Text.cut? pattern (render pieces ++ rest) =
      (Text.cut? pattern rest).map fun (before, after) => (render pieces ++ before, after) :=
  cut?_append_of_startsNowhere (startsNowhere_flatMap h) rest

/-! ## Pieces that can be sent -/

/-- A piece shows no half of a surrogate pair. -/
def Piece.IsPlain : Piece → Prop
  | .markup _ => True
  | .shown text => text.IsPlain

@[simp] theorem Piece.isPlain_markup (text : String) : (Piece.markup text).IsPlain := trivial

@[simp] theorem Piece.isPlain_shown (text : WideText) : (Piece.shown text).IsPlain ↔ text.IsPlain :=
  Iff.rfl

theorem Piece.isPlain_iff {piece : Piece} :
    piece.IsPlain ↔ piece.points.any Point.isSurrogate = false := by
  cases piece with
  | markup text => exact iff_of_true trivial (WideText.any_points_plain text)
  | shown text =>
      rw [IsPlain, WideText.isPlain_iff, points, List.any_flatMap]
      refine iff_of_eq (congrArg (fun half => text.points.any half = false) (funext fun point => ?_))
      cases point with
      | char c => simp [Point.isSurrogate]
      | surrogate half => rfl

/-- No piece of a row shows a half. -/
def AllPlain (pieces : List Piece) : Prop :=
  ∀ piece ∈ pieces, piece.IsPlain

@[simp] theorem allPlain_nil : AllPlain [] := nofun

@[simp] theorem allPlain_cons (piece : Piece) (pieces : List Piece) :
    AllPlain (piece :: pieces) ↔ piece.IsPlain ∧ AllPlain pieces :=
  List.forall_mem_cons

@[simp] theorem allPlain_append (a b : List Piece) : AllPlain (a ++ b) ↔ AllPlain a ∧ AllPlain b :=
  List.forall_mem_append

@[simp] theorem allPlain_flatMap {α : Type} (items : List α) (f : α → List Piece) :
    AllPlain (items.flatMap f) ↔ ∀ item ∈ items, AllPlain (f item) :=
  List.forall_mem_flatMap

/-- A row of pieces can be sent exactly if each of them can. -/
theorem isPlain_wideText_iff {pieces : List Piece} : (wideText pieces).IsPlain ↔ AllPlain pieces := by
  simp only [wideText, AllPlain, WideText.isPlain_ofPoints_iff, List.any_flatMap, List.any_eq_false,
    Piece.isPlain_iff, Bool.not_eq_true]

end Wizard

end SelfBuild
