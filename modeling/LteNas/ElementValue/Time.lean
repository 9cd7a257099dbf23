import LteNas.Element.Decoder

namespace LteNas

/-!
# Times

Timers, clock times and zones.  Clock times are two decimal digits an octet, the
low nibble being the tens.
-/

namespace ElementValue

/-- A timer of the first two formats. -/
def timer : OctetDecoder :=
  Reader.decoder do
    return .timer (Timer.ofOctet Timer.unitSeconds (← Reader.soleOctet))

/-- A timer of the third format. -/
def longTimer : OctetDecoder :=
  Reader.decoder do
    return .timer (Timer.ofOctet Timer.longUnitSeconds (← Reader.soleOctet))

/-- The number of two digits, the low nibble being the tens. -/
def swappedDigits (octet : UInt8) : Nat :=
  10 * (lowNibble octet).toNat + (highNibble octet).toNat

def clockText (octet : UInt8) : String :=
  Text.decimal 2 (swappedDigits octet)

/-- The quarters of an hour between a zone and Greenwich, whose sign is bit 4. -/
def zoneQuarters (octet : UInt8) : Nat :=
  swappedDigits (octet &&& 0xF7)

/-- The distance of a zone from Greenwich. -/
def zoneText (octet : UInt8) : String :=
  let quarters := zoneQuarters octet
  let sign := if bit octet 4 then "-" else "+"
  s!"GMT {sign}{quarters / 4}:" ++ Text.decimal 2 (quarters % 4 * 15)

def dateText (year month day : UInt8) : String :=
  s!"20{clockText year}-{clockText month}-{clockText day}"

def timeZone : OctetDecoder :=
  Reader.decoder do
    return .text (zoneText (← Reader.soleOctet))

def timeAndZone : OctetDecoder :=
  Reader.decoder do
    Reader.expectExactly 7
    let time ← Reader.vector 7
    let date := dateText time[0] time[1] time[2]
    let clock := s!"{clockText time[3]}:{clockText time[4]}:{clockText time[5]}"
    return .text s!"{date} {clock} {zoneText time[6]}"

/-- The hours that daylight saving adds. -/
def daylightSaving : OctetDecoder :=
  Reader.decoder do
    let octet ← Reader.soleOctet
    return codedBy
      [ (0, "No adjustment for Daylight Saving Time"),
        (1, "+1 hour adjustment for Daylight Saving Time"),
        (2, "+2 hours adjustment for Daylight Saving Time") ]
      "Reserved"
      (octet &&& 0x03)

end ElementValue

end LteNas
