/-!
# UTF-8, strictly

Decoding that accepts exactly the well-formed byte sequences and says where the first ill-formed
one stands.  A fault covers the bytes that belong together: the lead byte and the continuation
bytes that were still right.
-/

namespace SelfBuild

namespace Text

namespace Utf8

/-- Why bytes are no part of a well-formed text. -/
inductive Reason where
  | invalidStart
  | invalidContinuation
  | unexpectedEnd
deriving DecidableEq, Repr

def Reason.text : Reason -> String
  | .invalidStart => "invalid start byte"
  | .invalidContinuation => "invalid continuation byte"
  | .unexpectedEnd => "unexpected end of data"

/-- An ill-formed sequence: its first byte, where that stands, and how many bytes it covers. -/
structure Fault where
  lead : UInt8
  position : Nat
  width : Nat
  reason : Reason
deriving DecidableEq, Repr

def continuations (lead : UInt8) : Option (List (UInt8 × UInt8)) :=
  let rest : UInt8 × UInt8 := (0x80, 0xbf)
  if lead < 0x80 then some []
  else if lead < 0xc2 then none
  else if lead < 0xe0 then some [rest]
  else if lead = 0xe0 then some [(0xa0, 0xbf), rest]
  else if lead = 0xed then some [(0x80, 0x9f), rest]
  else if lead < 0xf0 then some [rest, rest]
  else if lead = 0xf0 then some [(0x90, 0xbf), rest, rest]
  else if lead < 0xf4 then some [rest, rest, rest]
  else if lead = 0xf4 then some [(0x80, 0x8f), rest, rest]
  else none

/-- How many of the expected bytes are there, and what is wrong with the next one. -/
def matched : List (UInt8 × UInt8) -> List UInt8 -> Nat × Option Reason
  | [], _ => (0, none)
  | _ :: _, [] => (0, some .unexpectedEnd)
  | (low, high) :: ranges, byte :: bytes =>
      if low ≤ byte && byte ≤ high then
        let (count, reason) := matched ranges bytes
        (count + 1, reason)
      else (0, some .invalidContinuation)

/-- The first fault of a byte sequence whose first `skip` bytes are part of a character. -/
def faultFrom (position : Nat) : Nat -> List UInt8 -> Option Fault
  | _, [] => none
  | skip + 1, _ :: rest => faultFrom (position + 1) skip rest
  | 0, lead :: rest =>
      match continuations lead with
      | none => some ⟨lead, position, 1, .invalidStart⟩
      | some ranges =>
          match matched ranges rest with
          | (count, some reason) => some ⟨lead, position, count + 1, reason⟩
          | (count, none) => faultFrom (position + 1) count rest

/-- The text that the bytes encode, or the first fault. -/
def decode (bytes : ByteArray) : Except Fault String :=
  match String.fromUTF8? bytes with
  | some text => .ok text
  | none => .error ((faultFrom 0 0 bytes.toList).getD ⟨0, bytes.size, 0, .unexpectedEnd⟩)

def encode (text : String) : ByteArray :=
  text.toUTF8

def byteText (byte : UInt8) : String :=
  let digits := Nat.toDigits 16 byte.toNat
  String.ofList (List.replicate (2 - digits.length) '0' ++ digits)

def Fault.message (fault : Fault) : String :=
  let place :=
    if fault.width = 1 then s!"byte 0x{byteText fault.lead} in position {fault.position}"
    else s!"bytes in position {fault.position}-{fault.position + fault.width - 1}"
  s!"'utf-8' codec can't decode {place}: {fault.reason.text}"

theorem decode_encode (text : String) : decode (encode text) = .ok text := by
  have h : String.fromUTF8? text.toUTF8 = some text := by
    simp [String.fromUTF8?, String.toUTF8, text.isValidUTF8, String.fromUTF8]
  unfold decode encode
  rw [h]

/-- Bytes that can be decoded are those that the text is encoded by. -/
theorem encode_of_decode {bytes : ByteArray} {text : String} (h : decode bytes = .ok text) :
    encode text = bytes := by
  unfold decode String.fromUTF8? at h
  split at h
  · rename_i found hfound
    split at hfound
    · cases h
      cases hfound
      rfl
    · cases hfound
  · cases h

theorem encode_append (s t : String) : encode (s ++ t) = encode s ++ encode t :=
  ByteArray.ext rfl

theorem encode_injective {s t : String} (h : encode s = encode t) : s = t := by
  have hdecoded := congrArg decode h
  rw [decode_encode, decode_encode] at hdecoded
  exact Except.ok.inj hdecoded

end Utf8

end Text

end SelfBuild
