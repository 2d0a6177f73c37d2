import SelfBuild.Proofs.Lint.Syntax

/-!
# Reading a line with its quotes

A reader of a line stands outside quotes, between them, or behind a caret.  What is left of a line outside
quotes is found character by character from where the reader stands, so a line may be cut wherever it
stands outside.
-/

namespace SelfBuild

namespace Lint

variable {xs : List Char}

/-- Where a reader of a line stands; a caret takes the meaning of the next character away. -/
inductive Quoting where
  | outside
  | inside
  | escaped
deriving DecidableEq, Repr

def Quoting.next : Quoting → Char → Quoting
  | .outside, c => if c = '^' then .escaped else if c = '"' then .inside else .outside
  | .inside, c => if c = '"' then .outside else .inside
  | .escaped, _ => .outside

/-- Whether a character is part of the syntax of a line. -/
def Quoting.keeps : Quoting → Char → Bool
  | .outside, c => c ≠ '^' && c ≠ '"'
  | _, _ => false

/-- Where a reader stands behind the start of a line. -/
def quotingAfter (s : List Char) : Quoting :=
  s.foldl Quoting.next .outside

/-- What is left of the rest of a line, for a reader who stands somewhere in it. -/
def bareIn : Quoting → List Char → List Char
  | .outside, s => bareFrom false s
  | .inside, s => bareFrom true s
  | .escaped, s => bareFrom false s.tail

theorem bareIn_nil (quoting : Quoting) : bareIn quoting [] = [] := by
  cases quoting <;> rw [bareIn] <;> rfl

theorem bareIn_cons (quoting : Quoting) (c : Char) (s : List Char) :
    bareIn quoting (c :: s) = [c].filter quoting.keeps ++ bareIn (quoting.next c) s := by
  cases quoting with
  | outside =>
      by_cases hcaret : c = '^'
      · subst hcaret
        cases s <;> simp [bareIn, Quoting.next, Quoting.keeps, bareFrom]
      · by_cases hquote : c = '"'
        · subst hquote
          simp [bareIn, Quoting.next, Quoting.keeps, bareFrom_quote]
        · simp [bareIn, Quoting.next, Quoting.keeps, hcaret, hquote, bareFrom_cons_of_ne hcaret hquote]
  | inside =>
      by_cases hquote : c = '"'
      · subst hquote
        simp [bareIn, Quoting.next, Quoting.keeps, bareFrom_quote]
      · simp [bareIn, Quoting.next, Quoting.keeps, hquote, bareFrom_true_cons_of_ne hquote]
  | escaped => simp [bareIn, Quoting.next, Quoting.keeps]

theorem bareIn_append (quoting : Quoting) (xs ys : List Char) :
    bareIn quoting (xs ++ ys) =
      bareIn quoting xs ++ bareIn (xs.foldl Quoting.next quoting) ys := by
  induction xs generalizing quoting with
  | nil => simp [bareIn_nil]
  | cons c xs ih =>
      rw [List.cons_append, bareIn_cons, bareIn_cons, ih, List.foldl_cons, List.append_assoc]

theorem bare_append_eq (xs ys : List Char) : bare (xs ++ ys) = bare xs ++ bareIn (quotingAfter xs) ys :=
  bareIn_append .outside xs ys

theorem bare_append (h : quotingAfter xs = .outside) (ys : List Char) :
    bare (xs ++ ys) = bare xs ++ bare ys := by
  rw [bare_append_eq, h]
  rfl

end Lint

end SelfBuild
