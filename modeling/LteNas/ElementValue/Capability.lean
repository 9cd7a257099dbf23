import LteNas.Element.Decoder

namespace LteNas

/-!
# Capabilities

What a terminal or a network says that it supports.  A terminal may leave out
octets at the end; octets beyond the known ones are kept as they are.
-/

namespace ElementValue

/-! ## Algorithms -/

/-- The ciphering algorithms of the evolved packet system, bit 8 first. -/
def epsCipheringNames : List String :=
  ["EEA0", "128-EEA1", "128-EEA2", "128-EEA3", "EEA4", "EEA5", "EEA6", "EEA7"]

/-- The integrity algorithms of the evolved packet system, bit 8 first. -/
def epsIntegrityNames : List String :=
  ["EIA0", "128-EIA1", "128-EIA2", "128-EIA3", "EIA4", "EIA5", "EIA6", "EIA7"]

/-- The ciphering algorithms of the third generation, bit 8 first. -/
def umtsCipheringNames : List String :=
  ["UEA0", "UEA1", "UEA2", "UEA3", "UEA4", "UEA5", "UEA6", "UEA7"]

/-- Character set and integrity algorithms of the third generation, bit 8 first. -/
def umtsIntegrityNames : List String :=
  ["UCS2", "UIA1", "UIA2", "UIA3", "UIA4", "UIA5", "UIA6", "UIA7"]

/-- The ciphering algorithms of packet radio, bit 8 first; bit 8 itself is spare. -/
def packetCipheringNames : List String :=
  ["Spare", "GEA1", "GEA2", "GEA3", "GEA4", "GEA5", "GEA6", "GEA7"]

def flagRecord (name : String) (names : List String) (octet : UInt8) : Field :=
  ⟨name, .fields (flagFields octet names)⟩

/-- A record of flags without the one of the spare bit 8. -/
def sevenFlagRecord (name : String) (names : List String) (octet : UInt8) : Field :=
  ⟨name, .fields ((flagFields octet names).drop 1)⟩

/-- The flags of the algorithms that every terminal names. -/
def readEpsAlgorithms : Reader (List Field) := do
  Reader.expectAtLeast 2
  let ciphering ← Reader.octet
  let integrity ← Reader.octet
  return [
    flagRecord "EPS encryption algorithms" epsCipheringNames ciphering,
    flagRecord "EPS integrity algorithms" epsIntegrityNames integrity
  ]

/-- A record over one more octet, if there is one. -/
def readRecord (record : UInt8 → Field) : Reader (List Field) := do
  return ((← Reader.ifMore Reader.octet).map record).toList

/-- The octets that are left, if there are any. -/
def readFurther (name : String) : Reader (List Field) := do
  let further ← Reader.ifMore Reader.rest
  return (further.map (octetsField name)).toList

/-! ## Capabilities of a terminal -/

/-- Features of a terminal, bit 8 first. -/
def terminalFeatureNames : List String :=
  [ "ProSe direct discovery",
    "ProSe",
    "H.245 after SRVCC handover",
    "Access class control for CSFB",
    "LTE Positioning Protocol",
    "Location services notification mechanisms",
    "SRVCC from E-UTRAN to cdma2000 1xCS",
    "Notification procedure" ]

/-- Features of a terminal for the internet of things, bit 8 first. -/
def thingFeatureNames : List String :=
  [ "Extended protocol configuration options",
    "Header compression for control plane CIoT EPS optimization",
    "EMM-REGISTERED w/o PDN connection",
    "S1-U data transfer",
    "User plane CIoT EPS optimization",
    "Control plane CIoT EPS optimization",
    "ProSe UE-to-network relay",
    "ProSe direct communication" ]

/-- What a terminal can do in the evolved packet system. -/
def terminalNetworkCapability : OctetDecoder :=
  Reader.decoder do
    let algorithms ← readEpsAlgorithms
    let umtsCiphering ←
      readRecord (flagRecord "UMTS encryption algorithms" umtsCipheringNames)
    let umtsIntegrity ←
      readRecord (flagRecord "UMTS integrity algorithms" umtsIntegrityNames)
    let features ← readRecord (flagRecord "Features" terminalFeatureNames)
    let thingFeatures ← readRecord (flagRecord "CIoT features" thingFeatureNames)
    let further ← readFurther "Further capabilities"
    return .fields
      (algorithms ++ umtsCiphering ++ umtsIntegrity ++ features ++ thingFeatures ++ further)

/-- The greatest number of octets of a security capability. -/
def greatestSecurityLength : Nat :=
  5

/-- The algorithms that the network repeats to a terminal. -/
def terminalSecurityCapability : OctetDecoder :=
  Reader.decoder do
    let algorithms ← readEpsAlgorithms
    let umtsCiphering ←
      readRecord (flagRecord "UMTS encryption algorithms" umtsCipheringNames)
    let umtsIntegrity ←
      readRecord (sevenFlagRecord "UMTS integrity algorithms" umtsIntegrityNames)
    let packetCiphering ←
      readRecord (sevenFlagRecord "GPRS encryption algorithms" packetCipheringNames)
    if ← Reader.hasMore then
      Reader.fail (.lengthMismatch greatestSecurityLength (← Reader.here).length)
    else
      return .fields (algorithms ++ umtsCiphering ++ umtsIntegrity ++ packetCiphering)

/-- What a terminal can do in packet radio; only the first octet is broken down. -/
def packetNetworkCapability : OctetDecoder :=
  Reader.decoder do
    let octet ← Reader.octet
    let further ← readFurther "Further capabilities"
    return .fields
      (flagFields octet
        [ "GEA1",
          "SM capabilities via dedicated channels",
          "SM capabilities via GPRS channels",
          "UCS2 support" ] ++
      [ numberField "SS Screening Indicator" (octet >>> 2 &&& 0x03).toNat,
        flagField "SoLSA Capability" octet 2,
        flagField "Revision level indicator" octet 1 ] ++
      further)

/-- The network feature that a terminal supports. -/
def terminalFeature : NibbleDecoder := fun nibble =>
  .fields [flagField "Extended periodic timers" nibble 1]

/-- What a terminal is configured for. -/
def deviceProperties : NibbleDecoder := fun nibble =>
  codedBit nibble 1
    "MS is configured for NAS signalling low priority"
    "MS is not configured for NAS signalling low priority"

/-- The network should ask for the radio capability again. -/
def radioCapabilityUpdate : NibbleDecoder := fun nibble =>
  codedBit nibble 1
    "UE radio capability information update needed"
    "UE radio capability information update not needed"

/-- What a terminal is used for and how it prefers to speak. -/
def voicePreference : OctetDecoder :=
  Reader.decoder do
    let octet ← Reader.soleOctet
    return .fields
      [ ⟨"UE's usage setting", codedBit octet 3 "Data centric" "Voice centric"⟩,
        ⟨"Voice domain preference for E-UTRAN",
          codedBy
            [ (0, "CS Voice only"),
              (1, "IMS PS Voice only"),
              (2, "CS voice preferred, IMS PS Voice as secondary"),
              (3, "IMS PS voice preferred, CS Voice as secondary") ]
            "Reserved"
            (octet &&& 0x03)⟩ ]

/-! ## Discontinuous reception -/

/-- The cycles of discontinuous reception that a terminal can ask for. -/
def receptionCycles : List (Nat × String) :=
  [ (6, "CN Specific DRX cycle length coefficient 6 and T = 32"),
    (7, "CN Specific DRX cycle length coefficient 7 and T = 64"),
    (8, "CN Specific DRX cycle length coefficient 8 and T = 128"),
    (9, "CN Specific DRX cycle length coefficient 9 and T = 256") ]

/-- When a terminal listens. -/
def discontinuousReception : OctetDecoder :=
  Reader.decoder do
    Reader.expectExactly 2
    let split ← Reader.number 1
    let octet ← Reader.octet
    return .fields
      [ numberField "SPLIT PG CYCLE CODE" split,
        ⟨"CN Specific S1 mode DRX cycle length coefficient",
          codedBy receptionCycles "DRX value not specified by the MS" (highNibble octet)⟩,
        flagField "SPLIT on CCCH" octet 4,
        numberField "Non-DRX timer" (octet &&& 0x07).toNat ]

/-- When a terminal with long cycles listens. -/
def extendedReception : OctetDecoder :=
  Reader.decoder do
    let octet ← Reader.octet
    let further ← readFurther "Further parameters"
    return .fields
      ([ numberField "Paging Time Window" (highNibble octet).toNat,
         numberField "eDRX value" (lowNibble octet).toNat ] ++
      further)

/-! ## Capabilities of a network -/

/-- Features of a network that are named by a whole octet, bit 8 first. -/
def networkFeatureNames : List String :=
  [ "Signalling for a maximum number of 15 EPS bearer contexts",
    "Interworking without N26",
    "Restriction on the use of dual connectivity with NR",
    "Restriction on enhanced coverage",
    "Extended protocol configuration options",
    "Header compression for control plane CIoT EPS optimization",
    "S1-u data transfer",
    "User plane CIoT EPS optimization" ]

/-- The features of a network; octets beyond the second are skipped. -/
def networkFeatures : OctetDecoder :=
  Reader.decoder do
    let octet ← Reader.octet
    let second ← Reader.ifMore Reader.octet
    return .fields
      (flagFields octet
        [ "Control plane CIoT EPS optimization",
          "EMM-REGISTERED w/o PDN connectivity",
          "Extended service request for packet services" ] ++
      [ numberField "Location services indicator in CS (CS-LCS)" (octet >>> 3 &&& 0x03).toNat,
        flagField "Location services via EPC" octet 3,
        flagField "Emergency bearer services in S1 mode" octet 2,
        flagField "IMS voice over PS session in S1 mode" octet 1 ] ++
      (second.map fun octet => flagFields octet networkFeatureNames).getD [])

end ElementValue

end LteNas
