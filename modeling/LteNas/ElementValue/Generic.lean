import LteNas.Element.Decoder

namespace LteNas

/-!
# Values of any element

Values that are not looked into, plain numbers, and the flags of bearers.
-/

namespace ElementValue

def uninterpreted : OctetDecoder :=
  Reader.decoder do
    return .octets (← Reader.rest)

/-- Octets that belong to another protocol. -/
def handedTo (protocol : String) : OctetDecoder :=
  Reader.decoder do
    return .handoff protocol (← Reader.rest)

/-- The greatest number of octets of a plain number. -/
def greatestNumberLength : Nat :=
  8

/-- A big-endian number of any length up to the greatest. -/
def unsigned : OctetDecoder :=
  Reader.decoder do
    let length ← Reader.remaining
    if greatestNumberLength < length then
      Reader.fail (.lengthMismatch greatestNumberLength length)
    else
      return .number (← Reader.number length)

/-- Half an octet that means nothing. -/
def spareHalf : NibbleDecoder := fun nibble =>
  .number nibble.toNat

def bearerName (bearer : Nat) : String :=
  s!"EBI({bearer})"

/-- One flag for each of sixteen bearers, the lowest bit of an octet first. -/
def bearerFlags (first second : UInt8) : Value :=
  .fields ((List.range 16).map fun bearer =>
    if bearer < 8 then
      flagField (bearerName bearer) first (bearer + 1)
    else
      flagField (bearerName bearer) second (bearer - 7))

def readBearerFlags : Reader Value := do
  Reader.expectExactly 2
  let first ← Reader.octet
  let second ← Reader.octet
  return bearerFlags first second

def bearerStatus : OctetDecoder :=
  Reader.decoder readBearerFlags

end ElementValue

end LteNas
