import SelfBuild.Decimal.Shortest

/-!
# Writing floating-point numbers

A style fixes everything that the digits leave open: up to which exponents a number is written
positionally, and how an exponent looks.
-/

namespace SelfBuild

namespace Decimal

/-- How numbers are written. -/
structure Style where
  leastPositional : Int
  leastScientific : Int
  exponentWidth : Nat
  notANumber : String
  infinity : String

/-- Positional from one ten-thousandth up to ten to the sixteenth; a point always shows, and an
exponent has a sign and at least two digits. -/
def plain : Style where
  leastPositional := -4
  leastScientific := 16
  exponentWidth := 2
  notANumber := "nan"
  infinity := "inf"

/-- Drop trailing zeros of the digits into the exponent. -/
def Scaled.trimmed : Nat -> Scaled -> Scaled
  | 0, x => x
  | fuel + 1, x =>
      if x.digits != 0 && x.digits % 10 == 0 then Scaled.trimmed fuel ⟨x.digits / 10, x.exponent + 1⟩
      else x

def Style.write (style : Style) (x : Scaled) : String :=
  let x := x.trimmed 20
  let digits := Nat.toDigits 10 x.digits
  let lead := x.exponent + Int.ofNat digits.length - 1
  let zeros (n : Nat) := List.replicate n '0'
  String.ofList <|
    if style.leastPositional ≤ lead && lead < style.leastScientific then
      if x.exponent ≥ 0 then digits ++ zeros x.exponent.toNat ++ ['.', '0']
      else if lead < 0 then ['0', '.'] ++ zeros (-lead - 1).toNat ++ digits
      else digits.take (lead + 1).toNat ++ ['.'] ++ digits.drop (lead + 1).toNat
    else
      let size := Nat.toDigits 10 lead.natAbs
      let fraction := digits.drop 1
      digits.take 1 ++ (if fraction.isEmpty then [] else '.' :: fraction) ++
        ['e', if lead < 0 then '-' else '+'] ++ zeros (style.exponentWidth - size.length) ++ size

/-- The magnitude that the bits of a finite number stand for. -/
def Binary.ofBits (bits : UInt64) : Binary :=
  let fraction := bits.toNat % fullMantissa
  let power := bits.toNat / fullMantissa % 2048
  if power = 0 then ⟨fraction, -1074⟩ else ⟨fraction + fullMantissa, Int.ofNat power - 1075⟩

/-- Write a floating-point number with the fewest digits that read back. -/
def Style.writeFloat (style : Style) (x : Float) : String :=
  let bits := x.toBits
  let magnitude :=
    if x.isInf then style.infinity
    else
      let binary := Binary.ofBits bits
      style.write (if binary.mantissa = 0 then ⟨0, 0⟩ else binary.shortest)
  if x.isNaN then style.notANumber
  else if bits.toNat ≥ 2048 * fullMantissa then "-" ++ magnitude
  else magnitude

end Decimal

end SelfBuild
