import LteNas.Text.CharacterLiteral

namespace LteNas

/-!
# Hexadecimal text of octets

Two digits an octet, written in lower case and read in either case.  Text is
read as its UTF-8 octets, so a position counts octets and a character outside
ASCII is reported by its first octet.
-/

/-- Why hexadecimal text spells no octets. -/
inductive HexFault where
  | oddLength
  | invalidCharacter (octet : UInt8) (position : Nat)
  deriving Repr, DecidableEq

def HexFault.message : HexFault → String
  | .oddLength =>
      "Odd number of digits"
  | .invalidCharacter octet position =>
      s!"Invalid character {Text.quoteOctet octet} at position {position}"

namespace Hex

/-- The digit of a number below sixteen. -/
def digit (nibble : UInt8) : Char :=
  Char.ofNat (if nibble < 10 then 0x30 + nibble.toNat else 0x57 + nibble.toNat)

/-- The two digits of an octet, high nibble first. -/
def digits (octet : UInt8) : List Char :=
  [digit (octet >>> 4), digit (octet &&& 0x0F)]

/-- The hexadecimal text of octets. -/
def encode (octets : List UInt8) : String :=
  String.ofList (octets.flatMap digits)

/-- The number below sixteen that a digit, given as its ASCII octet, stands for. -/
def nibble? (octet : UInt8) : Option UInt8 :=
  if 0x30 ≤ octet && octet ≤ 0x39 then some (octet - 0x30)
  else if 0x41 ≤ octet && octet ≤ 0x46 then some (octet - 0x37)
  else if 0x61 ≤ octet && octet ≤ 0x66 then some (octet - 0x57)
  else none

/-- The number of the digit at `position`, or the fault that it is none. -/
def nibbleAt (octet : UInt8) (position : Nat) : Except HexFault UInt8 :=
  match nibble? octet with
  | some nibble =>
      .ok nibble
  | none =>
      .error (.invalidCharacter octet position)

/-- Read pairs of digits, the first of which stands at `position`. -/
def decodePairs : List UInt8 → Nat → Except HexFault (List UInt8)
  | high :: low :: text, position => do
      let upper ← nibbleAt high position
      let lower ← nibbleAt low (position + 1)
      let octets ← decodePairs text (position + 2)
      return (upper <<< 4 ||| lower) :: octets
  | _, _ =>
      return []

/-- The octets that hexadecimal text, given as its UTF-8 octets, spells. -/
def decode (text : List UInt8) : Except HexFault (List UInt8) :=
  if text.length % 2 = 0 then
    decodePairs text 0
  else
    .error .oddLength

end Hex

/-- The UTF-8 octets of characters. -/
def utf8Octets (characters : List Char) : List UInt8 :=
  characters.flatMap String.utf8EncodeChar

end LteNas
