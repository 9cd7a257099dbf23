import LteNas.Element.Decoder
import LteNas.Text.Septets
import LteNas.Text.Utf16

namespace LteNas

/-!
# Names of networks

The name of a network is in seven-bit characters or in sixteen-bit units.
-/

namespace ElementValue

/-- How the name of a network is written. -/
inductive NameCoding where
  | septets
  | units
  deriving Repr, DecidableEq

namespace NameCoding

def ofCode? (code : UInt8) : Option NameCoding :=
  match code.toNat with
  | 0 => some .septets
  | 1 => some .units
  | _ => none

def value : NameCoding → Value
  | .septets => .coded 0 "GSM 7 bit default alphabet"
  | .units => .coded 1 "UCS2 (16 bit)"

/-- The text of octets whose last `spareBits` bits are unused. -/
def readText (octets : List UInt8) (spareBits : Nat) : NameCoding → String
  | .septets =>
      Text.unpackSeptets octets (Text.septetCount octets.length spareBits)
  | .units =>
      Text.readUtf16 octets

end NameCoding

def networkName : OctetDecoder :=
  Reader.decoder do
    let octet ← Reader.octet
    let octets ← Reader.rest
    let scheme := octet >>> 4 &&& 0x07
    match NameCoding.ofCode? scheme with
    | none =>
        Reader.fail (.invalidValue (.reservedCoding scheme.toNat))
    | some coding =>
        return .fields
          [ ⟨"Coding Scheme", coding.value⟩,
            flagField "Add CI" octet 4,
            textField "Text String" (coding.readText octets (octet &&& 0x07).toNat) ]

end ElementValue

end LteNas
