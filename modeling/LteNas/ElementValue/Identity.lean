import LteNas.Element.Decoder
import LteNas.Identity.DialledDigits

namespace LteNas

/-!
# Identities of subscribers and terminals

The low three bits of the first octet tell the kind of identity.  Identities of
digits have their first digit in the high nibble of that octet.
-/

namespace ElementValue

/-- The kind of identity that a first octet announces. -/
def identityKind (first : UInt8) : UInt8 :=
  first &&& 0x07

def mobileIdentityKinds : List (Nat × String) :=
  [ (0, "No identity"),
    (1, "IMSI"),
    (2, "IMEI"),
    (3, "IMEISV"),
    (4, "TMSI/P-TMSI/M-TMSI"),
    (5, "TMGI and optional MBMS Session Identity") ]

/-- The kinds of identity in the evolved packet system. -/
def epsIdentityKinds : List (Nat × String) :=
  [ (1, "IMSI"),
    (3, "IMEI"),
    (6, "GUTI") ]

/-- An identity of unknown kind is kept as octets and reported from `start` on. -/
def readUnknownIdentity
    (start : Window)
    (kind : UInt8) :
    Reader (List Field × List Diagnostic) := do
  let octets ← Reader.rest
  return ([octetsField "Identity" octets], [⟨.unknownIdentity kind, start.remainingSpan⟩])

/-- The digits of a mobile identity; a filler in place of the first digit is left out. -/
def readMobileDigits (name : String) (first : UInt8) : Reader (List Field) := do
  return [⟨name, .digits (DialledDigits.textAfter first (← Reader.rest))⟩]

/-- What follows the first octet of a mobile identity. -/
def readMobileIdentityBody
    (start : Window)
    (first : UInt8) :
    Reader (List Field × List Diagnostic) :=
  match (identityKind first).toNat with
  | 0 => do
      let _ ← Reader.rest
      return ([], [])
  | 1 => do
      return (← readMobileDigits "IMSI" first, [])
  | 2 => do
      return (← readMobileDigits "IMEI" first, [])
  | 3 => do
      return (← readMobileDigits "IMEISV" first, [])
  | 4 => do
      return ([numberField "TMSI/P-TMSI/M-TMSI" (← Reader.soleNumber 4)], [])
  | 5 => do
      return ([octetsField "TMGI" (← Reader.rest)], [])
  | _ =>
      readUnknownIdentity start (identityKind first)

def mobileIdentity : OctetDecoder :=
  Reader.reporting do
    let start ← Reader.here
    let first ← Reader.octet
    let (parts, diagnostics) ← readMobileIdentityBody start first
    let kind := codedBy mobileIdentityKinds "Reserved" (identityKind first)
    let parity := flagField "Odd/even indication" first 4
    return (.fields (⟨"Type of identity", kind⟩ :: parity :: parts), diagnostics)

/-- The digits of an identity in the evolved packet system, the first one always shown. -/
def readEpsDigits (name : String) (first : UInt8) : Reader (List Field) := do
  return [⟨name, .digits (DialledDigits.textWith first (← Reader.rest))⟩]

/-- The network identity in three octets. -/
def readPlmn : Reader Plmn := do
  let octets ← Reader.vector 3
  return Plmn.ofOctets octets[0] octets[1] octets[2]

/-- A globally unique temporary identity. -/
def readTemporaryIdentity : Reader (List Field) := do
  Reader.expectExactly 10
  let plmn ← readPlmn
  let group ← Reader.number 2
  let code ← Reader.number 1
  let temporary ← Reader.number 4
  return [
    ⟨"PLMN", .plmn plmn⟩,
    numberField "MME Group ID" group,
    numberField "MME Code" code,
    numberField "M-TMSI" temporary
  ]

/-- What follows the first octet of an identity in the evolved packet system. -/
def readEpsIdentityBody
    (start : Window)
    (first : UInt8) :
    Reader (List Field × List Diagnostic) :=
  match (identityKind first).toNat with
  | 1 => do
      return (← readEpsDigits "IMSI" first, [])
  | 3 => do
      return (← readEpsDigits "IMEI" first, [])
  | 6 => do
      return (← readTemporaryIdentity, [])
  | _ =>
      readUnknownIdentity start (identityKind first)

/-- An identity in the evolved packet system. -/
def epsMobileIdentity : OctetDecoder :=
  Reader.reporting do
    let start ← Reader.here
    let first ← Reader.octet
    let (parts, diagnostics) ← readEpsIdentityBody start first
    let kind := codedBy epsIdentityKinds "Reserved" (identityKind first)
    let parity := flagField "Odd/even indication" first 4
    return (.fields (⟨"Type of identity", kind⟩ :: parity :: parts), diagnostics)

/-- The identity that the network asks for. -/
def requestedIdentity : NibbleDecoder := fun nibble =>
  codedBy
    [ (1, "IMSI"),
      (2, "IMEI"),
      (3, "IMEISV"),
      (4, "TMSI") ]
    "IMSI"
    (identityKind nibble)

def pagingIdentity : OctetDecoder :=
  Reader.decoder do
    return codedBit (← Reader.soleOctet) 1 "TMSI" "IMSI"

def temporaryIdentitySignature : OctetDecoder :=
  Reader.decoder do
    return .number (← Reader.soleNumber 3)

def temporaryIdentityStatus : NibbleDecoder := fun nibble =>
  codedBit nibble 1 "Valid TMSI available" "No valid TMSI available"

/-- Where a globally unique temporary identity comes from. -/
def temporaryIdentityOrigin : NibbleDecoder := fun nibble =>
  codedBit nibble 1 "Mapped GUTI" "Native GUTI"

end ElementValue

end LteNas
