import LteNas.ElementValue.Generic

namespace LteNas

/-!
# Containers

Elements that carry a message of this protocol, or octets of another one.
-/

namespace ElementValue

/-- A message that the element carries; one that is nested too deep stays as it is. -/
def carriedMessage (carriage : Carriage) : OctetDecoder := fun scope window =>
  match scope.nested carriage window with
  | some (message, after) =>
      ⟨.ok (.message message, after), [], scope.containerType⟩
  | none =>
      let limit := scope.config.maxNestingDepth
      ⟨.ok (.octets window.rest, window.exhaust),
        [⟨.nestingLimit limit, window.remainingSpan⟩],
        scope.containerType⟩

/-- An octet can be the first of a clear message: a bearer of it is not a reserved one. -/
def isClearStart (octet : UInt8) : Bool :=
  let bearer := (highNibble octet).toNat
  let isSession :=
    Protocol.discriminatorOf octet == Protocol.sessionManagement.discriminator
  Protocol.isKnownStart octet && !(isSession && 1 ≤ bearer && bearer ≤ 4)

/-- A session management message; inside a partially ciphered one it may still be ciphered. -/
def sessionMessage : OctetDecoder := fun scope window =>
  if scope.partiallyCiphered && !window.peek?.any isClearStart then
    ⟨.ok (.ciphered window.rest, window.exhaust),
      [⟨.decipherFailed, window.remainingSpan⟩],
      scope.containerType⟩
  else
    carriedMessage .bare scope window

/-- A message that the terminal sends again, security header included. -/
def replayedMessage : OctetDecoder :=
  carriedMessage .complete

def shortMessage : OctetDecoder :=
  handedTo "gsm_sms_cp"

/-- What a terminal says of itself for circuit switching. -/
def classmark : OctetDecoder :=
  handedTo "gsm_a.classmark"

/-- The speech codecs of a terminal. -/
def supportedCodecs : OctetDecoder :=
  handedTo "gsm_a.codecs"

/-- The quality of service of packet radio. -/
def packetQuality : OctetDecoder :=
  handedTo "gsm_a.qos"

/-- Who asks for a location. -/
def locationClient : OctetDecoder :=
  handedTo "gsm_map.lcs_client"

/-- How flows move between networks. -/
def flowMobility : OctetDecoder :=
  handedTo "nbifom"

/-- The containers of any kind that have a protocol of their own. -/
def containerProtocol? (containerType : UInt8) : Option String :=
  match containerType.toNat with
  | 1 => some "lpp"
  | 2 => some "lcs"
  | _ => none

def containerTypes : List (Nat × String) :=
  [ (1, "LTE Positioning Protocol (LPP) message container"),
    (2, "Location services message container") ]

def genericContainerType : OctetDecoder := fun scope window =>
  match Reader.soleOctet window with
  | .error fault =>
      ⟨.error fault, [], scope.containerType⟩
  | .ok (octet, after) =>
      ⟨.ok (codedBy containerTypes "Reserved" octet, after), [], some octet⟩

/-- A container of the type that was announced. -/
def genericContainer : OctetDecoder := fun scope window =>
  match scope.containerType.bind containerProtocol? with
  | some protocol => handedTo protocol scope window
  | none => uninterpreted scope window

/-- The protocol that user data is handed to under a configuration. -/
def userDataProtocol? (config : Config) : Option String :=
  match config.userData with
  | .raw => none
  | .ip => some "ip"
  | .nonIp => if config.nonIpProtocol.isEmpty then none else some config.nonIpProtocol
  | .ethernet => some "eth_withoutfcs"

/-- User data, whose protocol only the configuration knows. -/
def userData : OctetDecoder := fun scope window =>
  match userDataProtocol? scope.config with
  | some protocol => handedTo protocol scope window
  | none => uninterpreted scope window

end ElementValue

end LteNas
