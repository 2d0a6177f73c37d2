import SelfBuild.Text.Blank
import SelfBuild.Text.CharClass
import SelfBuild.Decimal.Shortest

/-!
# Reading numbers

Floating-point numbers from decimals, and from the texts that people write for them: blanks around,
a sign, digits of any script with single underscores between them, a fraction, an exponent, or a
name for infinity or for no number.
-/

namespace SelfBuild

namespace Decimal

def spanDigits (s : List Char) : List Char × List Char :=
  (s.takeWhile Char.isDigit, s.dropWhile Char.isDigit)

def ofDigits (digits : List Char) : Nat :=
  digits.foldl (fun n c => 10 * n + (c.toNat - '0'.toNat)) 0

/-- The floating-point number nearest to `digits * 10 ^ exponent`.  Magnitudes far outside the range
are answered without computing the power. -/
def toFloat (x : Scaled) : Float :=
  if x.digits = 0 then 0
  else
    let size := Int.ofNat (digitCount x.digits) + x.exponent
    if size > 310 then 1.0 / 0.0
    else if size < -330 then 0
    else Float.ofScientific x.digits (x.exponent < 0) x.exponent.natAbs

def signed (negative : Bool) (x : Float) : Float :=
  if negative then -x else x

/-- An exponent after its letter: an optional sign and at least one digit. -/
def exponent? (s : List Char) : Option (Int × List Char) :=
  let unsignedPart (s : List Char) : Option (Nat × List Char) :=
    let (digits, rest) := spanDigits s
    if digits.isEmpty then none else some (ofDigits digits, rest)
  match s with
  | '-' :: rest => (unsignedPart rest).map fun (n, rest) => (-Int.ofNat n, rest)
  | '+' :: rest => (unsignedPart rest).map fun (n, rest) => (Int.ofNat n, rest)
  | _ => (unsignedPart s).map fun (n, rest) => (Int.ofNat n, rest)

/-- A magnitude in digits: whole part, fraction and exponent, of which the first two may not both be
empty. -/
def magnitude? (s : List Char) : Option Scaled :=
  let (whole, rest) := spanDigits s
  let (fraction, rest) :=
    match rest with
    | '.' :: rest => spanDigits rest
    | _ => ([], rest)
  if whole.isEmpty && fraction.isEmpty then none
  else
    let digits := ofDigits (whole ++ fraction)
    let places := -Int.ofNat fraction.length
    match rest with
    | [] => some ⟨digits, places⟩
    | c :: rest =>
        if c = 'e' || c = 'E' then
          match exponent? rest with
          | some (power, []) => some ⟨digits, places + power⟩
          | _ => none
        else none

/-- Drop underscores, each of which must stand between two digits. -/
def dropUnderscores? (previous : Char) : List Char -> Option (List Char)
  | [] => if previous = '_' then none else some []
  | c :: rest =>
      if c = '_' then
        if previous.isDigit then dropUnderscores? c rest else none
      else if previous = '_' && !c.isDigit then none
      else (dropUnderscores? c rest).map (c :: ·)

/-- A number without sign: a name or a magnitude. -/
def unsigned? (s : List Char) : Option Float :=
  let word := String.ofList (s.map Char.toLower)
  if word = "inf" || word = "infinity" then some (1.0 / 0.0)
  else if word = "nan" then some (0.0 / 0.0)
  else (magnitude? s).map toFloat

def signed? : List Char -> Option Float
  | '-' :: rest => (unsigned? rest).map (signed true)
  | '+' :: rest => unsigned? rest
  | s => unsigned? s

/-- Put the digits and blanks of every script in ASCII; a character that has no place in a number
stays as it is. -/
def plainForm (c : Char) : Char :=
  if c.toNat < 0x7f then c
  else if Text.isBlank c then ' '
  else
    match Text.digitValue? c with
    | some value => Char.ofNat ('0'.toNat + value)
    | none => c

/-- The blanks around a number: space and the five layout controls. -/
def isMargin (c : Char) : Bool :=
  c = ' ' || (9 ≤ c.toNat && c.toNat ≤ 13)

def read? (s : String) : Option Float :=
  let plainText := s.toList.map plainForm
  let body := ((plainText.dropWhile isMargin).reverse.dropWhile isMargin).reverse
  match dropUnderscores? ' ' body with
  | some body => signed? body
  | none => none

end Decimal

end SelfBuild
