import LteNas.Octets.Window
import LteNas.Protocol.Discriminator

namespace LteNas

/-!
# Security envelopes

A mobility management message may be wrapped: six octets with a message
authentication code and a sequence number in front of the message proper.  The
service request is a form of its own, four octets and nothing else.
-/

/-- The ways a message is wrapped, by the header type in the high nibble. -/
inductive HeaderKind where
  | plain
  | integrityProtected
  | integrityProtectedCiphered
  | integrityProtectedNewContext
  | integrityProtectedCipheredNewContext
  | integrityProtectedPartiallyCiphered
  | serviceRequest
  | reserved (headerType : UInt8)
  deriving Repr, DecidableEq

namespace HeaderKind

/-- The kind of a header type; from twelve up they all are service requests. -/
def ofHeaderType (headerType : UInt8) : HeaderKind :=
  match headerType.toNat with
  | 0 => .plain
  | 1 => .integrityProtected
  | 2 => .integrityProtectedCiphered
  | 3 => .integrityProtectedNewContext
  | 4 => .integrityProtectedCipheredNewContext
  | 5 => .integrityProtectedPartiallyCiphered
  | number =>
      if 12 ≤ number then .serviceRequest else .reserved headerType

/-- The whole payload is ciphered. -/
def isCiphered : HeaderKind → Bool
  | .integrityProtectedCiphered => true
  | .integrityProtectedCipheredNewContext => true
  | _ => false

/-- An authentication code and a sequence number precede the message. -/
def isProtected : HeaderKind → Bool
  | .plain => false
  | .serviceRequest => false
  | _ => true

def name : HeaderKind → String
  | .plain => "Plain NAS message, not security protected"
  | .integrityProtected => "Integrity protected"
  | .integrityProtectedCiphered => "Integrity protected and ciphered"
  | .integrityProtectedNewContext => "Integrity protected with new EPS security context"
  | .integrityProtectedCipheredNewContext =>
      "Integrity protected and ciphered with new EPS security context"
  | .integrityProtectedPartiallyCiphered => "Integrity protected and partially ciphered"
  | .serviceRequest => "Security header for the SERVICE REQUEST message"
  | .reserved _ => "Reserved"

/-- The name of a kind, a reserved one with its header type. -/
def text : HeaderKind → String
  | .reserved headerType => s!"Reserved ({headerType.toNat})"
  | kind => kind.name

end HeaderKind

/-- What the outer header says. -/
structure Envelope where
  kind : HeaderKind
  discriminator : UInt8
  /-- Four octets, or the two octets of a service request. -/
  authenticationCode : Option Nat
  /-- Eight bits, or the five bits of a service request. -/
  sequenceNumber : Option UInt8
  /-- The key set identifier of a service request. -/
  keySet : Option UInt8
  deriving Repr, DecidableEq

/-- Why an outer header cannot be read. -/
inductive EnvelopeFault where
  | wrongProtocol (discriminator headerType : UInt8)
  | truncated (shortage : Shortage)
  deriving Repr, DecidableEq

def EnvelopeFault.message : EnvelopeFault → String
  | .wrongProtocol discriminator headerType =>
      s!"Wrong protocol discriminator {discriminator.toNat} for security header type {headerType.toNat}"
  | .truncated shortage =>
      s!"Truncated security header: {shortage.message}"

namespace Envelope

/-- A shorter message is plain whatever its header type. -/
def leastProtectedLength : Nat :=
  8

/-- The lowest header type of a service request. -/
def serviceRequestType : UInt8 :=
  12

/-- The envelope of a message without one. -/
def plain (discriminator : UInt8) : Envelope :=
  ⟨.plain, discriminator, none, none, none⟩

/-- Read the four octets of a service request. -/
def readServiceRequest
    (discriminator : UInt8)
    (window : Window) :
    Except Shortage (Envelope × Window) := do
  let (front, after) ← window.take 4
  let second := front.getD 1 0
  return (
    { kind := .serviceRequest
      discriminator
      authenticationCode := some (bigEndian (front.drop 2))
      sequenceNumber := some (second &&& 0x1F)
      keySet := some (second >>> 5) },
    after)

/-- Read the six octets of a protected header. -/
def readProtected
    (discriminator headerType : UInt8)
    (window : Window) :
    Except Shortage (Envelope × Window) := do
  let (_, window) ← window.octet
  let (authenticationCode, window) ← window.number 4
  let (sequenceNumber, window) ← window.octet
  return (
    { kind := .ofHeaderType headerType
      discriminator
      authenticationCode := some authenticationCode
      sequenceNumber := some sequenceNumber
      keySet := none },
    window)

/-- A shortage inside the header truncates it. -/
def orTruncated (outcome : Except Shortage α) : Except EnvelopeFault α :=
  outcome.mapError .truncated

/--
Read the outer header.  A plain message keeps its octets; the high nibble of a
session management message is a bearer identity and no header type.
-/
def read
    (dissectPlain : Bool)
    (window : Window) :
    Except EnvelopeFault (Envelope × Window) :=
  match window.peek? with
  | none =>
      .error (.truncated ⟨1, 0⟩)
  | some first =>
      let headerType := first >>> 4
      let discriminator := Protocol.discriminatorOf first
      let protocol? := Protocol.ofDiscriminator? discriminator
      if protocol? = some .mobilityManagement ∧ serviceRequestType ≤ headerType then
        orTruncated (readServiceRequest discriminator window)
      else if window.remaining < leastProtectedLength ∨ dissectPlain ∨ headerType = 0 ∨
          protocol? = some .sessionManagement then
        .ok (plain discriminator, window)
      else if protocol? = some .mobilityManagement then
        orTruncated (readProtected discriminator headerType window)
      else
        .error (.wrongProtocol discriminator headerType)

end Envelope

end LteNas
