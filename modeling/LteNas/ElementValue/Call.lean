import LteNas.Element.Decoder
import LteNas.Identity.DialledDigits

namespace LteNas

/-!
# Calls and emergency numbers

Lists of emergency numbers keep the records in front of one that is not
complete.
-/

namespace ElementValue

/-- The services that an emergency number reaches. -/
def emergencyCategory (octet : UInt8) : Value :=
  .fields
    [ flagField "Police" octet 1,
      flagField "Ambulance" octet 2,
      flagField "Fire Brigade" octet 3,
      flagField "Marine Guard" octet 4,
      flagField "Mountain Rescue" octet 5 ]

/-- An emergency number and the services that it reaches. -/
def readEmergencyNumber : Reader Value := do
  let length ← Reader.number 1
  if length = 0 then
    Reader.fail (.invalidValue .zeroLength)
  else
    let record ← Reader.inner length
    let category := record.peek?.getD 0
    let number := DialledDigits.text (record.rest.drop 1)
    return .fields
      [ ⟨"Emergency Service Category", emergencyCategory category⟩,
        ⟨"Emergency Number", .digits number⟩ ]

def emergencyNumbers : OctetDecoder :=
  Reader.reporting do
    let (numbers, diagnostics) ←
      Reader.completeOnes "Emergency number information" readEmergencyNumber
    return (.list numbers, diagnostics)

def sevenBitText (octets : List UInt8) : String :=
  String.ofList (octets.map fun octet => Char.ofNat (octet &&& 0x7F).toNat)

/-- An emergency number and the service behind it. -/
def readExtendedEmergencyNumber : Reader Value := do
  let number ← Reader.octets (← Reader.number 1)
  let service ← Reader.octets (← Reader.number 1)
  return .fields
    [ ⟨"Emergency Number", .digits (DialledDigits.text number)⟩,
      textField "Sub-services" (sevenBitText service) ]

/-- A list of emergency numbers and where they hold. -/
def extendedEmergencyNumbers : OctetDecoder :=
  Reader.reporting do
    let octet ← Reader.octet
    let (numbers, diagnostics) ←
      Reader.completeOnes "Extended emergency number information" readExtendedEmergencyNumber
    let validity :=
      codedBit octet 1
        "Valid only in the PLMN from which this IE is received"
        "Valid in the country of the PLMN from which this IE is received"
    let parts :=
      [ ⟨"Extended Emergency Number List Validity", validity⟩,
        ⟨"Emergency numbers", .list numbers⟩ ]
    return (.fields parts, diagnostics)

/-- How the number of a caller may be shown, where a first octet leaves room for it. -/
def readPresentation (first : UInt8) : Reader (List Field) :=
  if bit first 8 then
    return []
  else do
    let octet ← Reader.octet
    return [
      numberField "Presentation indicator" (octet >>> 5 &&& 0x03).toNat,
      numberField "Screening indicator" (octet &&& 0x03).toNat
    ]

/-- The number of a caller. -/
def callingLine : OctetDecoder :=
  Reader.decoder do
    let octet ← Reader.octet
    let presentation ← readPresentation octet
    let number := DialledDigits.text (← Reader.rest)
    return .fields
      ([ numberField "Type of number" (octet >>> 4 &&& 0x07).toNat,
         numberField "Numbering plan identification" (lowNibble octet).toNat ] ++
      presentation ++
      [⟨"Calling party BCD number", .digits number⟩])

def locationIndicator : OctetDecoder :=
  Reader.decoder do
    let octet ← Reader.soleOctet
    return codedBy
      [(1, "Mobile-terminated location request (MT-LR)")]
      "Unspecified"
      octet

end ElementValue

end LteNas
