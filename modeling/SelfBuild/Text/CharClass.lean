import SelfBuild.Text.Table.Printable
import SelfBuild.Text.Table.Word
import SelfBuild.Text.Table.Digit

/-!
# Character classes

Printable characters, word characters and decimal digits.  ASCII is decided by its ranges; above it
a class is given by the code points where membership changes, so a character belongs to the class
when an odd number of changes lies at or before it.
-/

namespace SelfBuild

namespace Text

/-- Membership in a class that starts empty and changes at each of the bounds. -/
def inRuns (bounds : List Nat) (c : Char) : Bool :=
  (bounds.takeWhile fun bound => bound ≤ c.toNat).length % 2 == 1

def isPrintable (c : Char) : Bool :=
  if c.toNat < 0x80 then 0x20 ≤ c.toNat && c.toNat < 0x7f else inRuns printableBounds c

/-- Whether a character is a letter, a numeral or an underscore. -/
def isWord (c : Char) : Bool :=
  if c.toNat < 0x80 then c.isAlphanum || c == '_' else inRuns wordBounds c

def digitValue? (c : Char) : Option Nat :=
  if c.toNat < 0x80 then
    if c.isDigit then some (c.toNat - '0'.toNat) else none
  else
    (digitZeros.find? fun start => start ≤ c.toNat && c.toNat < start + 10).map (c.toNat - ·)

end Text

end SelfBuild
