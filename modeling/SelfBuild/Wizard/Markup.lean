import SelfBuild.Text.Wide

/-!
# Markup

A page is a row of pieces.  Markup belongs to the page and stands as it is; a text belongs to the
user or the service, and is shown with the five characters escaped that markup could be made of.
So no text can open a tag or leave the quotes of an attribute.  Escaping leaves half a surrogate pair
alone, so a page that shows one is no plain text.
-/

namespace SelfBuild

namespace Wizard

/-- A character as automatic escaping of templates documents it: the five characters of markup become
entities, the two quotes by their numbers, and all others stay. -/
def escapeChar (c : Char) : List Char :=
  if c = '&' then "&amp;".toList
  else if c = '<' then "&lt;".toList
  else if c = '>' then "&gt;".toList
  else if c = '"' then "&#34;".toList
  else if c = Char.ofNat 39 then "&#39;".toList
  else [c]

def escape (s : List Char) : List Char :=
  s.flatMap escapeChar

inductive Piece where
  | markup (text : String)
  | shown (text : WideText)
deriving DecidableEq, Repr

def Piece.chars : Piece -> List Char
  | .markup text => text.toList
  | .shown text => escape text.toList

def render (pieces : List Piece) : List Char :=
  pieces.flatMap Piece.chars

/-- The points of a piece. -/
def Piece.points : Piece -> List Point
  | .markup text => text.toList.map .char
  | .shown text =>
      text.points.flatMap fun point =>
        match point with
        | .char c => (escapeChar c).map .char
        | .surrogate half => [.surrogate half]

/-- The pieces as one wide text, which can be sent only if it is plain. -/
def wideText (pieces : List Piece) : WideText :=
  .ofPoints (pieces.flatMap Piece.points)

theorem render_append (a b : List Piece) : render (a ++ b) = render a ++ render b := by
  simp [render]

theorem not_mem_escapeChar (c : Char) :
    '<' ∉ escapeChar c ∧ '>' ∉ escapeChar c ∧ '"' ∉ escapeChar c := by
  unfold escapeChar
  repeat' split
  all_goals first | decide | simp_all [eq_comm]

theorem lt_not_mem_escape (s : List Char) : '<' ∉ escape s := by
  simp [escape, not_mem_escapeChar]

theorem gt_not_mem_escape (s : List Char) : '>' ∉ escape s := by
  simp [escape, not_mem_escapeChar]

theorem quote_not_mem_escape (s : List Char) : '"' ∉ escape s := by
  simp [escape, not_mem_escapeChar]

end Wizard

end SelfBuild
