import LteNas.Element.Catalogue
import LteNas.ElementValue.Capability
import LteNas.ElementValue.Container
import LteNas.ElementValue.Quality
import LteNas.ElementValue.Relay
import LteNas.ElementValue.Session
import LteNas.ElementValue.TrafficFlow

namespace LteNas

/-!
# Catalogues of session management

The elements of each message about the bearers of a terminal.
-/

namespace Catalogue

open ElementValue

/-- Set up the first bearer of a connection. -/
def activateDefaultBearerRequest : Catalogue :=
  [ .sized "EPS quality of service" quality,
    .sized "Access point name" accessPointName,
    .sized "PDN address" connectionAddress,
    .taggedSized 0x5D "Transaction identifier" transaction,
    .taggedSized 0x30 "Negotiated QoS" packetQuality,
    .tagged 0x32 "Negotiated LLC SAPI" 1 linkAccessPoint,
    .taggedHalf 0x8 "Radio priority" radioPriority,
    .taggedSized 0x34 "Packet flow Identifier" packetFlow,
    .taggedSized 0x5E "APN-AMBR" aggregateRate,
    .tagged 0x58 "ESM cause" 1 sessionCause,
    .taggedSized 0x27 "Protocol configuration options" configurationOptions,
    .taggedHalf 0xB "Connectivity type" connectivityType,
    .taggedHalf 0xC "WLAN offload indication" offloadAcceptability,
    .taggedSized 0x33 "NBIFOM container" flowMobility,
    .taggedSized 0x66 "Header compression configuration" headerCompression,
    .taggedHalf 0x9 "Control plane only indication" controlPlaneOnly,
    .taggedSizedExtended 0x7B "Extended protocol configuration options" configurationOptions,
    .taggedSized 0x6E "Serving PLMN rate control" networkRateControl,
    .taggedSized 0x5F "Extended APN-AMBR" extendedAggregateRate ]

/-- Nothing but options. -/
def optionsOnly : Catalogue :=
  [ .taggedSized 0x27 "Protocol configuration options" configurationOptions,
    .taggedSizedExtended 0x7B "Extended protocol configuration options" configurationOptions ]

def causeAndOptions : Catalogue :=
  [ .fixed "ESM cause" 1 sessionCause,
    .taggedSized 0x27 "Protocol configuration options" configurationOptions,
    .taggedSizedExtended 0x7B "Extended protocol configuration options" configurationOptions ]

def optionsAndFlowMobility : Catalogue :=
  [ .taggedSized 0x27 "Protocol configuration options" configurationOptions,
    .taggedSized 0x33 "NBIFOM container" flowMobility,
    .taggedSizedExtended 0x7B "Extended protocol configuration options" configurationOptions ]

def causeOptionsAndFlowMobility : Catalogue :=
  [ .fixed "ESM cause" 1 sessionCause,
    .taggedSized 0x27 "Protocol configuration options" configurationOptions,
    .taggedSized 0x33 "NBIFOM container" flowMobility,
    .taggedSizedExtended 0x7B "Extended protocol configuration options" configurationOptions ]

/-- Set up a further bearer of a connection. -/
def activateDedicatedBearerRequest : Catalogue :=
  [ .lowHalf "Linked EPS bearer identity" linkedBearer,
    .highHalf "Spare half octet" spareHalf,
    .sized "EPS QoS" quality,
    .sized "TFT" trafficFlow,
    .taggedSized 0x5D "Transaction identifier" transaction,
    .taggedSized 0x30 "Negotiated QoS" packetQuality,
    .tagged 0x32 "Negotiated LLC SAPI" 1 linkAccessPoint,
    .taggedHalf 0x8 "Radio priority" radioPriority,
    .taggedSized 0x34 "Packet flow Identifier" packetFlow,
    .taggedSized 0x27 "Protocol configuration options" configurationOptions,
    .taggedHalf 0xC "WLAN offload indication" offloadAcceptability,
    .taggedSized 0x33 "NBIFOM container" flowMobility,
    .taggedSizedExtended 0x7B "Extended protocol configuration options" configurationOptions,
    .taggedSized 0x5C "Extended EPS QoS" extendedQuality ]

def modifyBearerRequest : Catalogue :=
  [ .taggedSized 0x5B "New EPS QoS" quality,
    .taggedSized 0x36 "TFT" trafficFlow,
    .taggedSized 0x30 "New QoS" packetQuality,
    .tagged 0x32 "Negotiated LLC SAPI" 1 linkAccessPoint,
    .taggedHalf 0x8 "Radio priority" radioPriority,
    .taggedSized 0x34 "Packet flow Identifier" packetFlow,
    .taggedSized 0x5E "APN-AMBR" aggregateRate,
    .taggedSized 0x27 "Protocol configuration options" configurationOptions,
    .taggedHalf 0xC "WLAN offload indication" offloadAcceptability,
    .taggedSized 0x66 "Header compression configuration" headerCompression,
    .taggedSized 0x33 "NBIFOM container" flowMobility,
    .taggedSizedExtended 0x7B "Extended protocol configuration options" configurationOptions,
    .taggedSized 0x5F "Extended APN-AMBR" extendedAggregateRate,
    .taggedSized 0x5C "Extended EPS QoS" extendedQuality ]

/-- Take a bearer down. -/
def deactivateBearerRequest : Catalogue :=
  [ .fixed "ESM cause" 1 sessionCause,
    .taggedSized 0x27 "Protocol configuration options" configurationOptions,
    .taggedSized 0x37 "T3396 value" longTimer,
    .taggedHalf 0xC "WLAN offload indication" offloadAcceptability,
    .taggedSized 0x33 "NBIFOM container" flowMobility,
    .taggedSizedExtended 0x7B "Extended protocol configuration options" configurationOptions ]

/-- Ask for a connection. -/
def connectivityRequest : Catalogue :=
  [ .lowHalf "Request type" requestType,
    .highHalf "PDN type" connectionKind,
    .taggedHalf 0xD "ESM information transfer flag" informationTransfer,
    .taggedSized 0x28 "Access point name" accessPointName,
    .taggedSized 0x27 "Protocol configuration options" configurationOptions,
    .taggedHalf 0xC "Device properties" deviceProperties,
    .taggedSized 0x33 "NBIFOM container" flowMobility,
    .taggedSized 0x66 "Header compression configuration" headerCompression,
    .taggedSizedExtended 0x7B "Extended protocol configuration options" configurationOptions ]

/-- Refuse, and say when to try again. -/
def rejectWithBackOff : Catalogue :=
  [ .fixed "ESM cause" 1 sessionCause,
    .taggedSized 0x27 "Protocol configuration options" configurationOptions,
    .taggedSized 0x37 "Back-off timer value" longTimer,
    .taggedSized 0x6B "Re-attempt indicator" reattemptIndicator,
    .taggedSized 0x33 "NBIFOM container" flowMobility,
    .taggedSizedExtended 0x7B "Extended protocol configuration options" configurationOptions ]

/-- Ask for the end of a connection. -/
def disconnectRequest : Catalogue :=
  [ .lowHalf "Linked EPS bearer identity" linkedBearer,
    .highHalf "Spare half octet" spareHalf,
    .taggedSized 0x27 "Protocol configuration options" configurationOptions,
    .taggedSizedExtended 0x7B "Extended protocol configuration options" configurationOptions ]

/-- Ask for a bearer for some traffic. -/
def resourceAllocationRequest : Catalogue :=
  [ .lowHalf "Linked EPS bearer identity" linkedBearer,
    .highHalf "Spare half octet" spareHalf,
    .sized "Traffic aggregate description" trafficFlow,
    .sized "Required traffic flow QoS" quality,
    .taggedSized 0x27 "Protocol configuration options" configurationOptions,
    .taggedHalf 0xC "Device properties" deviceProperties,
    .taggedSized 0x33 "NBIFOM container" flowMobility,
    .taggedSized 0x5C "Extended EPS QoS" extendedQuality,
    .taggedSizedExtended 0x7B "Extended protocol configuration options" configurationOptions ]

/-- Ask for another bearer for some traffic. -/
def resourceModificationRequest : Catalogue :=
  [ .lowHalf "EPS bearer identity for packet filter" linkedBearer,
    .highHalf "Spare half octet" spareHalf,
    .sized "Traffic aggregate description" trafficFlow,
    .taggedSized 0x5B "Required traffic flow QoS" quality,
    .tagged 0x58 "ESM cause" 1 sessionCause,
    .taggedSized 0x27 "Protocol configuration options" configurationOptions,
    .taggedHalf 0xC "Device properties" deviceProperties,
    .taggedSized 0x33 "NBIFOM container" flowMobility,
    .taggedSized 0x66 "Header compression configuration" headerCompression,
    .taggedSized 0x5C "Extended EPS QoS" extendedQuality,
    .taggedSizedExtended 0x7B "Extended protocol configuration options" configurationOptions ]

/-- Hand in what was kept until security is on. -/
def informationResponse : Catalogue :=
  [ .taggedSized 0x28 "Access point name" accessPointName,
    .taggedSized 0x27 "Protocol configuration options" configurationOptions,
    .taggedSizedExtended 0x7B "Extended protocol configuration options" configurationOptions ]

/-- Let a terminal know of an event. -/
def notification : Catalogue :=
  [.sized "Notification indicator" notificationIndicator]

/-- Nothing but a cause. -/
def sessionCauseOnly : Catalogue :=
  [.fixed "ESM cause" 1 sessionCause]

/-- Report the terminals behind a relay. -/
def remoteTerminalReport : Catalogue :=
  [ .taggedSizedExtended 0x79 "Remote UE context connected" remoteTerminals,
    .taggedSizedExtended 0x7A "Remote UE context disconnected" remoteTerminals,
    .taggedSized 0x6F "ProSe key management function address" keyServerAddress ]

/-- Carry user data. -/
def dataTransport : Catalogue :=
  [ .sizedExtended "User data container" userData,
    .taggedHalf 0xF "Release assistance indication" releaseAssistance ]

end Catalogue

end LteNas
