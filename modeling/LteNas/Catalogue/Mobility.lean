import LteNas.Element.Catalogue
import LteNas.ElementValue.Call
import LteNas.ElementValue.Container
import LteNas.ElementValue.NetworkName
import LteNas.ElementValue.Registration
import LteNas.ElementValue.Security

namespace LteNas

/-!
# Catalogues of mobility management

The elements of each message between a terminal and the part of the network that
keeps track of it.
-/

namespace Catalogue

open ElementValue

/-- Ask to be registered. -/
def attachRequest : Catalogue :=
  [ .lowHalf "EPS attach type" attachType,
    .highHalf "NAS key set identifier" keySetIdentifier,
    .sized "EPS mobile identity" epsMobileIdentity,
    .sized "UE network capability" terminalNetworkCapability,
    .sizedExtended "ESM message container" sessionMessage,
    .tagged 0x19 "Old P-TMSI signature" 3 temporaryIdentitySignature,
    .taggedSized 0x50 "Additional GUTI" epsMobileIdentity,
    .tagged 0x52 "Last visited registered TAI" 5 trackingArea,
    .tagged 0x5C "DRX parameter" 2 discontinuousReception,
    .taggedSized 0x31 "MS network capability" packetNetworkCapability,
    .tagged 0x13 "Old location area identification" 5 locationArea,
    .taggedHalf 0x9 "TMSI status" temporaryIdentityStatus,
    .taggedSized 0x11 "Mobile station classmark 2" classmark,
    .taggedSized 0x20 "Mobile station classmark 3" classmark,
    .taggedSized 0x40 "Supported Codecs" supportedCodecs,
    .taggedHalf 0xF "Additional update type" additionalUpdateType,
    .taggedSized 0x5D "Voice domain preference and UE's usage setting" voicePreference,
    .taggedHalf 0xD "Device properties" deviceProperties,
    .taggedHalf 0xE "Old GUTI type" temporaryIdentityOrigin,
    .taggedHalf 0xC "MS network feature support" terminalFeature,
    .taggedSized 0x10 "TMSI based NRI container" uninterpreted,
    .taggedSized 0x6A "T3324 value" timer,
    .taggedSized 0x5E "T3412 extended value" longTimer,
    .taggedSized 0x6E "Extended DRX parameters" extendedReception,
    .taggedSized 0x28 "Paging restriction" pagingRestriction ]

/-- Grant a registration. -/
def attachAccept : Catalogue :=
  [ .lowHalf "EPS attach result" attachResult,
    .highHalf "Spare half octet" spareHalf,
    .fixed "T3412 value" 1 timer,
    .sized "TAI list" trackingAreaList,
    .sizedExtended "ESM message container" sessionMessage,
    .taggedSized 0x50 "GUTI" epsMobileIdentity,
    .tagged 0x13 "Location area identification" 5 locationArea,
    .taggedSized 0x23 "MS identity" mobileIdentity,
    .tagged 0x53 "EMM cause" 1 mobilityCause,
    .tagged 0x17 "T3402 value" 1 timer,
    .tagged 0x59 "T3423 value" 1 timer,
    .taggedSized 0x4A "Equivalent PLMNs" networkList,
    .taggedSized 0x34 "Emergency number list" emergencyNumbers,
    .taggedSized 0x64 "EPS network feature support" networkFeatures,
    .taggedHalf 0xF "Additional update result" additionalUpdateResult,
    .taggedSized 0x5E "T3412 extended value" longTimer,
    .taggedSized 0x6A "T3324 value" timer,
    .taggedSized 0x6E "Extended DRX parameters" extendedReception,
    .taggedSized 0x65 "DCN-ID" unsigned,
    .taggedHalf 0xE "SMS services status" shortMessageStatus,
    .taggedHalf 0xD "Non-3GPP NW provided policies" redirectionPolicy,
    .taggedSized 0x6B "T3448 value" timer,
    .taggedHalf 0xC "Network policy" redirectionPolicy,
    .taggedSized 0x6C "T3447 value" longTimer,
    .taggedSizedExtended 0x7A "Extended emergency number list" extendedEmergencyNumbers,
    .taggedSizedExtended 0x7C "Ciphering key data" cipheringKeyData ]

/-- Confirm a registration. -/
def attachComplete : Catalogue :=
  [.sizedExtended "ESM message container" sessionMessage]

/-- Refuse a registration. -/
def attachReject : Catalogue :=
  [ .fixed "EMM cause" 1 mobilityCause,
    .taggedSizedExtended 0x78 "ESM message container" sessionMessage,
    .taggedSized 0x5F "T3346 value" timer,
    .taggedSized 0x16 "T3402 value" timer,
    .taggedHalf 0xA "Extended EMM cause" extendedMobilityCause ]

/-- A terminal leaves. -/
def uplinkDetachRequest : Catalogue :=
  [ .lowHalf "Detach type" uplinkDetachType,
    .highHalf "NAS key set identifier" keySetIdentifier,
    .sized "EPS mobile identity" epsMobileIdentity ]

/-- The network lets a terminal go. -/
def downlinkDetachRequest : Catalogue :=
  [ .lowHalf "Detach type" downlinkDetachType,
    .highHalf "Spare half octet" spareHalf,
    .tagged 0x53 "EMM cause" 1 mobilityCause ]

/-- Tell the network of a new area. -/
def trackingAreaUpdateRequest : Catalogue :=
  [ .lowHalf "EPS update type" updateType,
    .highHalf "NAS key set identifier" keySetIdentifier,
    .sized "Old GUTI" epsMobileIdentity,
    .taggedHalf 0xB "Non-current native NAS key set identifier" keySetIdentifier,
    .taggedHalf 0x8 "GPRS ciphering key sequence number" cipheringKeyNumber,
    .tagged 0x19 "Old P-TMSI signature" 3 temporaryIdentitySignature,
    .taggedSized 0x50 "Additional GUTI" epsMobileIdentity,
    .tagged 0x55 "NonceUE" 4 nonce,
    .taggedSized 0x58 "UE network capability" terminalNetworkCapability,
    .tagged 0x52 "Last visited registered TAI" 5 trackingArea,
    .tagged 0x5C "DRX parameter" 2 discontinuousReception,
    .taggedHalf 0xA "UE radio capability information update needed" radioCapabilityUpdate,
    .taggedSized 0x57 "EPS bearer context status" bearerStatus,
    .taggedSized 0x31 "MS network capability" packetNetworkCapability,
    .tagged 0x13 "Old location area identification" 5 locationArea,
    .taggedHalf 0x9 "TMSI status" temporaryIdentityStatus,
    .taggedSized 0x11 "Mobile station classmark 2" classmark,
    .taggedSized 0x20 "Mobile station classmark 3" classmark,
    .taggedSized 0x40 "Supported Codecs" supportedCodecs,
    .taggedHalf 0xF "Additional update type" additionalUpdateType,
    .taggedSized 0x5D "Voice domain preference and UE's usage setting" voicePreference,
    .taggedHalf 0xE "Old GUTI type" temporaryIdentityOrigin,
    .taggedHalf 0xD "Device properties" deviceProperties,
    .taggedHalf 0xC "MS network feature support" terminalFeature,
    .taggedSized 0x10 "TMSI based NRI container" uninterpreted,
    .taggedSized 0x6A "T3324 value" timer,
    .taggedSized 0x5E "T3412 extended value" longTimer,
    .taggedSized 0x6E "Extended DRX parameters" extendedReception,
    .taggedSized 0x28 "Paging restriction" pagingRestriction ]

/-- Take note of a new area. -/
def trackingAreaUpdateAccept : Catalogue :=
  [ .lowHalf "EPS update result" updateResult,
    .highHalf "Spare half octet" spareHalf,
    .tagged 0x5A "T3412 value" 1 timer,
    .taggedSized 0x50 "GUTI" epsMobileIdentity,
    .taggedSized 0x54 "TAI list" trackingAreaList,
    .taggedSized 0x57 "EPS bearer context status" bearerStatus,
    .tagged 0x13 "Location area identification" 5 locationArea,
    .taggedSized 0x23 "MS identity" mobileIdentity,
    .tagged 0x53 "EMM cause" 1 mobilityCause,
    .tagged 0x17 "T3402 value" 1 timer,
    .tagged 0x59 "T3423 value" 1 timer,
    .taggedSized 0x4A "Equivalent PLMNs" networkList,
    .taggedSized 0x34 "Emergency number list" emergencyNumbers,
    .taggedSized 0x64 "EPS network feature support" networkFeatures,
    .taggedHalf 0xF "Additional update result" additionalUpdateResult,
    .taggedSized 0x5E "T3412 extended value" longTimer,
    .taggedSized 0x6A "T3324 value" timer,
    .taggedSized 0x6E "Extended DRX parameters" extendedReception,
    .taggedSized 0x68 "Header compression configuration status" bearerStatus,
    .taggedSized 0x65 "DCN-ID" unsigned,
    .taggedHalf 0xE "SMS services status" shortMessageStatus,
    .taggedHalf 0xD "Non-3GPP NW provided policies" redirectionPolicy,
    .taggedSized 0x6B "T3448 value" timer,
    .taggedHalf 0xC "Network policy" redirectionPolicy,
    .taggedSized 0x6C "T3447 value" longTimer,
    .taggedSizedExtended 0x7A "Extended emergency number list" extendedEmergencyNumbers,
    .taggedSizedExtended 0x7C "Ciphering key data" cipheringKeyData ]

/-- Refuse a new area. -/
def trackingAreaUpdateReject : Catalogue :=
  [ .fixed "EMM cause" 1 mobilityCause,
    .taggedSized 0x5F "T3346 value" timer,
    .taggedHalf 0xA "Extended EMM cause" extendedMobilityCause ]

def extendedServiceRequest : Catalogue :=
  [ .lowHalf "Service type" serviceType,
    .highHalf "NAS key set identifier" keySetIdentifier,
    .sized "M-TMSI" mobileIdentity,
    .taggedHalf 0xB "CSFB response" fallbackResponse,
    .taggedSized 0x57 "EPS bearer context status" bearerStatus,
    .taggedHalf 0xD "Device properties" deviceProperties,
    .taggedSized 0x28 "Paging restriction" pagingRestriction ]

def controlPlaneServiceRequest : Catalogue :=
  [ .lowHalf "Control plane service type" controlPlaneServiceType,
    .highHalf "NAS key set identifier" keySetIdentifier,
    .taggedSizedExtended 0x78 "ESM message container" sessionMessage,
    .taggedSizedExtended 0x67 "NAS message container" shortMessage,
    .taggedSized 0x57 "EPS bearer context status" bearerStatus,
    .taggedHalf 0xD "Device properties" deviceProperties,
    .taggedSized 0x28 "Paging restriction" pagingRestriction ]

def serviceReject : Catalogue :=
  [ .fixed "EMM cause" 1 mobilityCause,
    .tagged 0x5B "T3442 value" 1 timer,
    .taggedSized 0x5F "T3346 value" timer,
    .taggedSized 0x6B "T3448 value" timer ]

def serviceAccept : Catalogue :=
  [ .taggedSized 0x57 "EPS bearer context status" bearerStatus,
    .taggedSized 0x6B "T3448 value" timer ]

/-- Give a terminal a new temporary identity. -/
def temporaryIdentityCommand : Catalogue :=
  [ .sized "GUTI" epsMobileIdentity,
    .taggedSized 0x54 "TAI list" trackingAreaList,
    .taggedSized 0x65 "DCN-ID" unsigned ]

/-- Challenge a terminal. -/
def authenticationRequest : Catalogue :=
  [ .lowHalf "NAS key set identifierASME" keySetIdentifier,
    .highHalf "Spare half octet" spareHalf,
    .fixed "Authentication parameter RAND" 16 challengeParameter,
    .sized "Authentication parameter AUTN" challengeParameter ]

/-- Answer a challenge. -/
def authenticationResponse : Catalogue :=
  [.sized "Authentication response parameter" challengeResponse]

/-- Say why a challenge cannot be answered. -/
def authenticationFailure : Catalogue :=
  [ .fixed "EMM cause" 1 mobilityCause,
    .taggedSized 0x30 "Authentication failure parameter" uninterpreted ]

/-- Ask who a terminal is. -/
def identityRequest : Catalogue :=
  [ .lowHalf "Identity type" requestedIdentity,
    .highHalf "Spare half octet" spareHalf ]

/-- Say who a terminal is. -/
def identityResponse : Catalogue :=
  [.sized "Mobile identity" mobileIdentity]

def securityModeCommand : Catalogue :=
  [ .fixed "Selected NAS security algorithms" 1 selectedAlgorithms,
    .lowHalf "NAS key set identifier" keySetIdentifier,
    .highHalf "Spare half octet" spareHalf,
    .sized "Replayed UE security capabilities" terminalSecurityCapability,
    .taggedHalf 0xC "IMEISV request" equipmentIdentityRequest,
    .tagged 0x55 "Replayed nonceUE" 4 nonce,
    .tagged 0x56 "NonceMME" 4 nonce,
    .taggedSized 0x4F "HashMME" uninterpreted,
    .taggedSized 0x6F "Replayed UE additional security capability" uninterpreted ]

def securityModeComplete : Catalogue :=
  [ .taggedSized 0x23 "IMEISV" mobileIdentity,
    .taggedSizedExtended 0x79 "Replayed NAS message container" replayedMessage ]

/-- Nothing but a cause. -/
def mobilityCauseOnly : Catalogue :=
  [.fixed "EMM cause" 1 mobilityCause]

/-- Name the network and tell the time. -/
def networkInformation : Catalogue :=
  [ .taggedSized 0x43 "Full name for network" networkName,
    .taggedSized 0x45 "Short name for network" networkName,
    .tagged 0x46 "Local time zone" 1 timeZone,
    .tagged 0x47 "Universal time and local time zone" 7 timeAndZone,
    .taggedSized 0x49 "Network daylight saving time" daylightSaving ]

def shortMessageTransport : Catalogue :=
  [.sized "NAS message container" shortMessage]

def callNotification : Catalogue :=
  [ .fixed "Paging identity" 1 pagingIdentity,
    .taggedSized 0x60 "CLI" callingLine,
    .tagged 0x61 "SS Code" 1 unsigned,
    .tagged 0x62 "LCS indicator" 1 locationIndicator,
    .taggedSized 0x63 "LCS client identity" locationClient ]

/-- Carry a container of any kind. -/
def genericTransport : Catalogue :=
  [ .fixed "Generic message container type" 1 genericContainerType,
    .sizedExtended "Generic message container" genericContainer,
    .taggedSized 0x65 "Additional information" uninterpreted ]

end Catalogue

end LteNas
