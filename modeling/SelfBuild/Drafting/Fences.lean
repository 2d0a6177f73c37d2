import SelfBuild.Text.Blank
import SelfBuild.Text.Wide

/-!
# Code fences

A fence is three backticks with an optional tag for the language behind them.  Removing fences
scans from the left, and each fence takes the longest tag that stands there.
-/

namespace SelfBuild

namespace Drafting

def backtick : Char := Char.ofNat 0x60

/-- The tags that belong to a fence; of two that fit, the longer stands first. -/
def fenceTags : List (List Char) :=
  ["csharp".toList, "cs".toList, "c#".toList]

/-- Whether a character is a given letter in either case; the long s is one more form of an s. -/
def isCaseOf (letter c : Char) : Bool :=
  c.toLower = letter || (letter = 's' && c = 'ſ')

/-- Whether a text starts with a tag, in any case. -/
def startsWithTag : List Char -> List Char -> Bool
  | [], _ => true
  | _ :: _, [] => false
  | letter :: tag, c :: s => isCaseOf letter c && startsWithTag tag s

/-- The length of the fence that a text starts with, if it does. -/
def fence? (s : List Char) : Option Nat :=
  if (List.replicate 3 backtick).isPrefixOf s then
    match fenceTags.find? fun tag => startsWithTag tag (s.drop 3) with
    | some tag => some (3 + tag.length)
    | none => some 3
  else none

/-- Remove the fences of a text whose first `skip` characters belong to a fence. -/
def removeFences : Nat -> List Char -> List Char
  | _, [] => []
  | skip + 1, _ :: rest => removeFences skip rest
  | 0, c :: rest =>
      match fence? (c :: rest) with
      | some length => removeFences (length - 1) rest
      | none => c :: removeFences 0 rest

/-- The code in a text: without fences, and without blanks at the ends. -/
def stripFences (s : List Char) : List Char :=
  Text.trim (removeFences 0 s)

/-- Remove the fences of points whose first `skip` points belong to a fence. -/
def removePointFences : Nat -> List Point -> List Point
  | _, [] => []
  | skip + 1, _ :: rest => removePointFences skip rest
  | 0, point :: rest =>
      match fence? (point.seen :: rest.map Point.seen) with
      | some length => removePointFences (length - 1) rest
      | none => point :: removePointFences 0 rest

def isBlankPoint (point : Point) : Bool :=
  Text.isBlank point.seen

/-- The code in a wide text, whose points are looked at as characters. -/
def codeOf : WideText -> WideText
  | .plain s => .plain (String.ofList (stripFences s.toList))
  | .loose t =>
      let kept := (removePointFences 0 t.points).dropWhile isBlankPoint
      .ofPoints (kept.reverse.dropWhile isBlankPoint).reverse

end Drafting

end SelfBuild
