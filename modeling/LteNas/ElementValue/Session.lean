import LteNas.ElementValue.Generic
import LteNas.Identity.Address
import LteNas.Protocol.Cause
import LteNas.Text.Utf8

namespace LteNas

/-!
# Session values

What a terminal and the network settle for a bearer: whom it connects to, the
address, the options, and how its headers are compressed.
-/

namespace ElementValue

/-- Why session management refuses. -/
def sessionCause : OctetDecoder :=
  Reader.decoder do
    let code ← Reader.soleOctet
    return .coded code.toNat (Cause.sessionName code)

/-- The bearer that a request belongs to. -/
def linkedBearer : NibbleDecoder := fun nibble =>
  .coded nibble.toNat (if nibble < 5 then "Reserved" else "EPS bearer identity value")

/-! ## Connecting -/

/-- What a terminal requests a connection for. -/
def requestType : NibbleDecoder := fun nibble =>
  codedBy
    [ (1, "Initial request"),
      (2, "Handover"),
      (3, "Unused"),
      (4, "Emergency"),
      (6, "Handover of emergency bearer services") ]
    "Reserved"
    (nibble &&& 0x07)

def connectionKinds : List (Nat × String) :=
  [ (1, "IPv4"),
    (2, "IPv6"),
    (3, "IPv4v6"),
    (4, "Unused"),
    (5, "Non IP"),
    (6, "Ethernet") ]

def connectionKind : NibbleDecoder := fun nibble =>
  codedBy connectionKinds "Reserved" (nibble &&& 0x07)

/-- Whether a connection stays local. -/
def connectivityType : NibbleDecoder := fun nibble =>
  codedBit nibble 1
    "The PDN connection is considered a LIPA PDN connection"
    "The PDN connection is not considered a LIPA PDN connection"

/-- Whether a terminal keeps its options until security is on. -/
def informationTransfer : NibbleDecoder := fun nibble =>
  codedBit nibble 1
    "Security protected ESM information transfer required"
    "Security protected ESM information transfer not required"

/-- Which traffic may leave for a wireless local network. -/
def offloadAcceptability : NibbleDecoder := fun nibble =>
  .fields
    [ flagField "UTRAN offload acceptability" nibble 2,
      flagField "E-UTRAN offload acceptability" nibble 1 ]

def controlPlaneOnly : NibbleDecoder := fun nibble =>
  codedBit nibble 1
    "PDN connection can be used for control plane CIoT EPS optimization only"
    "Reserved"

/-- What a terminal expects to send and to receive from now on. -/
def releaseAssistance : NibbleDecoder := fun nibble =>
  codedBy
    [ (0, "No information available"),
      (1, "No further uplink or downlink data transmission expected"),
      (2, "Only a single downlink data transmission and no further uplink data expected") ]
    "Reserved"
    (nibble &&& 0x03)

/-! ## Names and addresses -/

/-- A label of an access point name behind its length. -/
def readAccessPointLabel : Reader String := do
  let length ← Reader.number 1
  let label ← (Reader.octets length).blaming (.invalidValue (.labelOverrun length))
  return Text.readUtf8 label

/-- The name of an access point: its labels, separated by points. -/
def accessPointName : OctetDecoder :=
  Reader.decoder do
    return .text (".".intercalate (← Reader.every readAccessPointLabel))

/-- An interface identifier in eight octets. -/
def readInterfaceIdentifier : Reader Field := do
  return textField "PDN IPv6 if id" (Address.interfaceIdentifier (← Reader.octets 8))

/-- A version 4 address in four octets. -/
def readDottedAddress : Reader Field := do
  return textField "PDN IPv4" (Address.dotted (← Reader.octets 4))

def readConnectionAddress (kind : UInt8) : Reader (List Field) :=
  match kind.toNat with
  | 1 => do
      Reader.expectExactly 4
      return [← readDottedAddress]
  | 2 => do
      Reader.expectExactly 8
      return [← readInterfaceIdentifier]
  | 3 => do
      Reader.expectExactly 12
      let identifier ← readInterfaceIdentifier
      return [identifier, ← readDottedAddress]
  | _ => do
      let information ← Reader.ifMore Reader.rest
      return (information.map (octetsField "Address information")).toList

def connectionAddress : OctetDecoder :=
  Reader.decoder do
    let octet ← Reader.octet
    let addresses ← readConnectionAddress (octet &&& 0x07)
    return .fields (⟨"PDN type", connectionKind octet⟩ :: addresses)

/-! ## Protocol configuration options -/

def optionName (identifier : Nat) : String :=
  match identifier with
  | 0x0001 => "P-CSCF IPv6 Address Request"
  | 0x0002 => "IM CN Subsystem Signaling Flag"
  | 0x0003 => "DNS Server IPv6 Address Request"
  | 0x0005 => "MS Support of Network Requested Bearer Control indicator"
  | 0x000A => "IP address allocation via NAS signalling"
  | 0x000C => "P-CSCF IPv4 Address Request"
  | 0x000D => "DNS Server IPv4 Address Request"
  | 0x0010 => "IPv4 Link MTU Request"
  | 0x0016 => "APN rate control support indicator"
  | 0x8021 => "Internet Protocol Control Protocol"
  | 0xC021 => "Link Control Protocol"
  | 0xC023 => "Password Authentication Protocol"
  | 0xC223 => "Challenge Handshake Authentication Protocol"
  | _ => "Unknown"

/-- An option: its identifier and its octets. -/
def readOption : Reader Value := do
  let identifier ← Reader.number 2
  let content ← Reader.octets (← Reader.number 1)
  return .fields
    [ ⟨"Protocol or Container ID", .coded identifier (optionName identifier)⟩,
      octetsField "Contents" content ]

def configurationOptions : OctetDecoder :=
  Reader.decoder do
    let octet ← Reader.octet
    let options ← Reader.every readOption
    return .fields
      [ flagField "Extension" octet 8,
        ⟨"Configuration Protocol", codedBy [(0, "PPP")] "Reserved" (octet &&& 0x07)⟩,
        ⟨"Containers", .list options⟩ ]

/-! ## Links to packet radio -/

def linkAccessPoint : OctetDecoder :=
  Reader.decoder do
    let octet ← Reader.soleOctet
    return codedBy
      [ (0, "LLC SAPI not assigned"),
        (3, "SAPI 3"),
        (5, "SAPI 5"),
        (9, "SAPI 9"),
        (11, "SAPI 11") ]
      "Reserved"
      (octet &&& 0x0F)

/-- The flows of packets with a meaning of their own, and the reserved ones. -/
def standardFlows : List (Nat × String) :=
  [ (0, "Best Effort"),
    (1, "Signalling"),
    (2, "SMS"),
    (3, "TOM8"),
    (4, "Reserved"),
    (5, "Reserved"),
    (6, "Reserved"),
    (7, "Reserved") ]

def packetFlow : OctetDecoder :=
  Reader.decoder do
    let octet ← Reader.soleOctet
    return codedBy standardFlows "Dynamically assigned" (octet &&& 0x7F)

/-- How urgent packets are. -/
def radioPriority : NibbleDecoder := fun nibble =>
  codedBy
    [ (1, "priority level 1 (highest)"),
      (2, "priority level 2"),
      (3, "priority level 3") ]
    "priority level 4 (lowest)"
    (nibble &&& 0x07)

/-- A transaction and the side that started it; octets beyond the second are skipped. -/
def transaction : OctetDecoder :=
  Reader.decoder do
    let octet ← Reader.octet
    let extension ← Reader.ifMore Reader.octet
    let side :=
      codedBit octet 8
        "The message is sent to the side that originates the TI"
        "The message is sent from the side that originates the TI"
    let extended := extension.map fun extension =>
      numberField "TIE" (extension &&& 0x7F).toNat
    return .fields
      (⟨"TI flag", side⟩ ::
        numberField "TIO" (octet >>> 4 &&& 0x07).toNat ::
        extended.toList)

/-! ## Notices and limits -/

/-- What the network lets a terminal know. -/
def notificationIndicator : OctetDecoder :=
  Reader.decoder do
    return codedBy
      [(1, "SRVCC handover cancelled, IMS session re-establishment required")]
      "Reserved"
      (← Reader.soleOctet)

/-- Where a terminal may try again. -/
def reattemptIndicator : OctetDecoder :=
  Reader.decoder do
    let octet ← Reader.soleOctet
    return .fields
      [ flagField "EPLMNC" octet 2,
        flagField "RATC" octet 1 ]

/-- The rate that a network without limit writes. -/
def unrestrictedRate : Nat :=
  0xFFFF

/-- How much a terminal may send in the control plane. -/
def networkRateControl : OctetDecoder :=
  Reader.decoder do
    let rate ← Reader.soleNumber 2
    return if rate = unrestrictedRate then .coded rate "Not restricted" else .number rate

/-! ## Header compression -/

/-- The profiles of header compression, bit 1 first. -/
def compressionProfiles : List String :=
  [ "RoHC profile 0x0002 (UDP/IP)",
    "RoHC profile 0x0003 (ESP/IP)",
    "RoHC profile 0x0004 (IP)",
    "RoHC profile 0x0006 (TCP/IP)",
    "RoHC profile 0x0102 (UDP/IP)",
    "RoHC profile 0x0103 (ESP/IP)",
    "RoHC profile 0x0104 (IP)" ]

/-- The parameters that set up a compression context, if there are any. -/
def readCompressionSetup : Reader (List Field) := do
  match ← Reader.ifMore Reader.octet with
  | none =>
      return []
  | some kind =>
      let container ← Reader.rest
      return [
        numberField "Additional header compression context setup parameters type" kind.toNat,
        octetsField "Additional header compression context setup parameters container" container
      ]

/-- How the headers of a connection are compressed. -/
def headerCompression : OctetDecoder :=
  Reader.decoder do
    Reader.expectAtLeast 3
    let profiles ← Reader.octet
    let contexts ← Reader.number 2
    let setup ← readCompressionSetup
    return .fields
      (compressionProfiles.mapIdx (fun index name => flagField name profiles (index + 1)) ++
      numberField "MAX_CID" contexts ::
      setup)

end ElementValue

end LteNas
