/-!
# Shortest decimals

The fewest decimal digits that read back as a given binary floating-point number, and of those the
nearest to it.

A finite number is `mantissa * 2 ^ exponent`; the reals that round to it form an interval around it
whose ends belong to it when the mantissa is even.  For one digit, two digits, and so on, the two
neighbours of the number on the grid of decimals with that many digits are tested in exact
arithmetic.  If any point of a grid lies in the interval, one of these two does.
-/

namespace SelfBuild

namespace Decimal

/-- The magnitude of a finite floating-point number. -/
structure Binary where
  mantissa : Nat
  exponent : Int
deriving DecidableEq, Repr

/-- A decimal magnitude `digits * 10 ^ exponent`. -/
structure Scaled where
  digits : Nat
  exponent : Int
deriving DecidableEq, Repr

/-- The number of decimal digits of a natural number; zero has one. -/
def digitCount (n : Nat) : Nat :=
  (Nat.toDigits 10 n).length

def powerFraction (base : Nat) (exponent : Int) : Nat × Nat :=
  if exponent < 0 then (1, base.pow exponent.natAbs) else (base.pow exponent.natAbs, 1)

/-- The exponent of the leading decimal digit of a positive fraction. -/
def leadingExponent (num den : Nat) : Int :=
  if den ≤ num then Int.ofNat (digitCount (num / den)) - 1
  else
    let below := digitCount (den / num) - 1
    if den ≤ num * Nat.pow 10 below then -Int.ofNat below else -Int.ofNat below - 1

/-- The interval of the reals that round to a number, as numerators over one denominator. -/
structure Interval where
  low : Nat
  value : Nat
  high : Nat
  den : Nat
  closed : Bool

/-- The least mantissa of a number that has all its bits. -/
def fullMantissa : Nat := Nat.pow 2 52

/-- The interval of a number; the gap below a power of two is half as wide as the one above. -/
def Binary.interval (x : Binary) : Interval :=
  let (num, den) := powerFraction 2 x.exponent
  let narrow := x.mantissa = fullMantissa && x.exponent > -1074
  { low := (4 * x.mantissa - (if narrow then 1 else 2)) * num
    value := 4 * x.mantissa * num
    high := (4 * x.mantissa + 2) * num
    den := 4 * den
    closed := x.mantissa % 2 = 0 }

def Interval.holds (i : Interval) (x : Scaled) : Bool :=
  let (up, down) := powerFraction 10 x.exponent
  let point := x.digits * up * i.den
  if i.closed then i.low * down ≤ point && point ≤ i.high * down
  else i.low * down < point && point < i.high * down

/-- Of the two neighbours of the value on a decimal grid, those in the interval; the nearer first,
and on a tie the even one. -/
def Interval.neighbours (i : Interval) (exponent : Int) : List Scaled :=
  let (up, down) := powerFraction 10 exponent
  let below := i.value * down / (i.den * up)
  let rest := i.value * down - below * (i.den * up)
  let lower : Scaled := ⟨below, exponent⟩
  let upper : Scaled := ⟨below + 1, exponent⟩
  let lowerFirst := 2 * rest < i.den * up || (2 * rest = i.den * up && below % 2 = 0)
  (if lowerFirst then [lower, upper] else [upper, lower]).filter i.holds

/-- Try the grids from `tried` digits on, for at most `fuel` of them. -/
def Interval.search (i : Interval) (lead : Int) : Nat -> Nat -> Option Scaled
  | 0, _ => none
  | fuel + 1, tried =>
      match i.neighbours (lead - tried) with
      | found :: _ => some found
      | [] => i.search lead fuel (tried + 1)

/-- The shortest decimal of a positive number; seventeen digits always suffice. -/
def Binary.shortest (x : Binary) : Scaled :=
  let i := x.interval
  (i.search (leadingExponent i.value i.den) 17 0).getD ⟨x.mantissa, 0⟩

end Decimal

end SelfBuild
