import LteNas.Identity.Plmn

namespace LteNas

/-!
# Dialled digits

Identities and telephone numbers are digit strings of two digits an octet, the
low nibble first.  The filler 0xF ends a string.
-/

namespace DialledDigits

/-- The nibble that ends a digit string. -/
def filler : UInt8 :=
  0x0F

/-- The digit of a nibble, dialling keys included; a filler has none. -/
def character (nibble : UInt8) : Char :=
  match nibble.toNat with
  | 0x0 => '0'
  | 0x1 => '1'
  | 0x2 => '2'
  | 0x3 => '3'
  | 0x4 => '4'
  | 0x5 => '5'
  | 0x6 => '6'
  | 0x7 => '7'
  | 0x8 => '8'
  | 0x9 => '9'
  | 0xA => '*'
  | 0xB => '#'
  | 0xC => 'a'
  | 0xD => 'b'
  | 0xE => 'c'
  | _ => '?'

/-- The nibbles of octets, low nibble first. -/
def nibbles (octets : List UInt8) : List UInt8 :=
  octets.flatMap fun octet => [lowNibble octet, highNibble octet]

/-- The digits of octets up to the first filler. -/
def ofOctets (octets : List UInt8) : List Char :=
  ((nibbles octets).takeWhile (· != filler)).map character

/-- The digits of octets up to the first filler, as text. -/
def text (octets : List UInt8) : String :=
  String.ofList (ofOctets octets)

/-- The digits after a first one in the high nibble of `first`, which a filler leaves out. -/
def textAfter (first : UInt8) (octets : List UInt8) : String :=
  let leading :=
    if highNibble first = filler then [] else [character (highNibble first)]
  String.ofList (leading ++ ofOctets octets)

/-- The digits after a first one in the high nibble of `first`, a filler shown like a digit. -/
def textWith (first : UInt8) (octets : List UInt8) : String :=
  String.ofList (character (highNibble first) :: ofOctets octets)

end DialledDigits

end LteNas
