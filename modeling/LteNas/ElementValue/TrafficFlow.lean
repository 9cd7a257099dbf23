import LteNas.Element.Decoder
import LteNas.Identity.Address

namespace LteNas

/-!
# Traffic flow templates

A template says which packets belong to a bearer: an operation, packet filters
of several components each, and parameters.
-/

namespace ElementValue

def flowOperations : List (Nat × String) :=
  [ (0, "Ignore this IE"),
    (1, "Create new TFT"),
    (2, "Delete existing TFT"),
    (3, "Add packet filters to existing TFT"),
    (4, "Replace packet filters in existing TFT"),
    (5, "Delete packet filters from existing TFT"),
    (6, "No TFT operation") ]

/-- The operation whose filters are bare identifiers. -/
def deleteFilters : UInt8 :=
  5

/-! ## Components -/

/-- What a component of a packet filter compares. -/
inductive FilterContent where
  /-- A version 4 address and its mask. -/
  | dotted
  /-- A version 6 address and its mask. -/
  | masked
  /-- A version 6 address and the length of the part that counts. -/
  | leading
  /-- A number of some octets. -/
  | number (width : Nat)
  /-- The least and the greatest number that match. -/
  | range
  /-- A traffic class and its mask. -/
  | trafficClass
  /-- A flow label of twenty bits. -/
  | flowLabel
  deriving Repr, DecidableEq

/-- A kind of component. -/
structure FilterKind where
  name : String
  content : FilterContent
  deriving Repr, DecidableEq

def filterKinds : List (Nat × FilterKind) :=
  [ (0x10, ⟨"IPv4 remote address type", .dotted⟩),
    (0x11, ⟨"IPv4 local address type", .dotted⟩),
    (0x20, ⟨"IPv6 remote address type", .masked⟩),
    (0x21, ⟨"IPv6 remote address/prefix length type", .leading⟩),
    (0x22, ⟨"IPv6 local address type", .masked⟩),
    (0x23, ⟨"IPv6 local address/prefix length type", .leading⟩),
    (0x30, ⟨"Protocol identifier/Next header type", .number 1⟩),
    (0x40, ⟨"Single local port type", .number 2⟩),
    (0x41, ⟨"Local port range type", .range⟩),
    (0x50, ⟨"Single remote port type", .number 2⟩),
    (0x51, ⟨"Remote port range type", .range⟩),
    (0x60, ⟨"Security parameter index type", .number 4⟩),
    (0x70, ⟨"Type of service/Traffic class type", .trafficClass⟩),
    (0x80, ⟨"Flow label type", .flowLabel⟩) ]

def hexadecimalOctet (octet : UInt8) : String :=
  "0x" ++ Text.hexadecimal 2 octet.toNat

/-- Read what a component compares. -/
def FilterContent.read : FilterContent → Reader Value
  | .dotted => do
      let address ← Reader.octets 4
      let mask ← Reader.octets 4
      return .text s!"{Address.dotted address}/{Address.dotted mask}"
  | .masked => do
      let address ← Reader.octets 16
      let mask ← Reader.octets 16
      return .text s!"{Address.ipv6 address}/{Address.ipv6 mask}"
  | .leading => do
      let address ← Reader.octets 16
      let length ← Reader.number 1
      return .text s!"{Address.ipv6 address}/{length}"
  | .number width => do
      return .number (← Reader.number width)
  | .range => do
      let low ← Reader.number 2
      let high ← Reader.number 2
      return .text s!"{low}-{high}"
  | .trafficClass => do
      let value ← Reader.octet
      let mask ← Reader.octet
      return .text s!"{hexadecimalOctet value}/{hexadecimalOctet mask}"
  | .flowLabel => do
      return .number ((← Reader.number 3) % Nat.pow 2 20)

def componentValue (code : Nat) (name : String) (content : Value) : Value :=
  .fields
    [ ⟨"Component type", .coded code name⟩,
      ⟨"Value", content⟩ ]

/-- A component; one of unknown kind takes all octets, since its length is unknown. -/
def readComponent : Reader Value := do
  let code ← Reader.number 1
  match filterKinds.lookup code with
  | some kind =>
      return componentValue code kind.name (← kind.content.read)
  | none =>
      return componentValue code "Unknown" (.octets (← Reader.rest))

/-! ## Filters and parameters -/

def filterDirections : List (Nat × String) :=
  [ (0, "Pre Rel-7 TFT filter"),
    (1, "Downlink only"),
    (2, "Uplink only"),
    (3, "Bidirectional") ]

def filterComponents (window : Window) : Except Fault (List Value) :=
  (Reader.every readComponent window).map Prod.fst

/-- A packet filter and its components. -/
def readFilter : Reader Value := do
  let octet ← Reader.octet
  let precedence ← Reader.number 1
  let content ← Reader.inner (← Reader.number 1)
  let components ← filterComponents content
  return .fields
    [ ⟨"Packet filter direction",
        codedBy filterDirections "Reserved" (octet >>> 4 &&& 0x03)⟩,
      numberField "Packet filter identifier" (lowNibble octet).toNat,
      numberField "Packet filter evaluation precedence" precedence,
      ⟨"Components", .list components⟩ ]

def readFilterIdentifier : Reader Value := do
  let octet ← Reader.octet
  return .fields [numberField "Packet filter identifier" (lowNibble octet).toNat]

def filterReader (operation : UInt8) : Reader Value :=
  if operation = deleteFilters then readFilterIdentifier else readFilter

def flowParameterKinds : List (Nat × String) :=
  [ (1, "Authorization Token"),
    (2, "Flow Identifier"),
    (3, "Packet Filter Identifier") ]

def readFlowParameter : Reader Value := do
  let kind ← Reader.octet
  let content ← Reader.octets (← Reader.number 1)
  return .fields
    [ ⟨"Parameter identifier", codedBy flowParameterKinds "Reserved" kind⟩,
      octetsField "Contents" content ]

/-- The parameters to the end, where a template announces them; otherwise there must be no octet. -/
def readFlowParameters (announced : Bool) : Reader (List Field × List Diagnostic) := do
  if announced then
    let (parameters, diagnostics) ← Reader.completeOnes "Parameters list" readFlowParameter
    return ([⟨"Parameters list", .list parameters⟩], diagnostics)
  else
    let window ← Reader.here
    if window.isEmpty then
      return ([], [])
    else
      Reader.fail (.lengthMismatch window.index window.length)

/-- What is wrong with the filters of a template: one of them, or else their number. -/
def filterDiagnostics
    (start : Window)
    (declared found : Nat)
    (complaints : List Diagnostic) :
    List Diagnostic :=
  if complaints.isEmpty ∧ found ≠ declared then
    [⟨.wrongNumberOfElements declared found, start.remainingSpan⟩]
  else
    complaints

def trafficFlow : OctetDecoder :=
  Reader.reporting do
    let start ← Reader.here
    let octet ← Reader.octet
    let operation := octet >>> 5
    let declared := (lowNibble octet).toNat
    let (filters, complaints) ←
      Reader.upTo declared "Packet filter" (filterReader operation)
    let (parameters, parameterDiagnostics) ← readFlowParameters (bit octet 5)
    let parts :=
      [ ⟨"TFT operation code", codedBy flowOperations "Reserved" operation⟩,
        flagField "E bit" octet 5,
        numberField "Number of packet filters" declared,
        ⟨"Packet filters", .list filters⟩ ] ++ parameters
    let diagnostics := filterDiagnostics start declared filters.length complaints
    return (.fields parts, diagnostics ++ parameterDiagnostics)

end ElementValue

end LteNas
