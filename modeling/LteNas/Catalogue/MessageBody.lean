import LteNas.Catalogue.Mobility
import LteNas.Catalogue.Session
import LteNas.Protocol.MessageType

namespace LteNas

/-!
# Message bodies

Each message type has a catalogue.  Only the request to detach has two, since
terminal and network write it differently.
-/

/-- The catalogue of a message type. -/
inductive MessageBody where
  | catalogue (entries : Catalogue)
  | byDirection (uplink downlink : Catalogue)

/--
A body is as long as an uplink request to detach: one octet, and an identity
whose length accounts for the rest.
-/
def Window.hasUplinkDetachLength (window : Window) : Bool :=
  (window.peekAt? 1).any fun length => length.toNat + 2 == window.remaining

namespace MessageBody

/-- The entries for a body; without a direction its length decides. -/
def entries (body : MessageBody) (direction : Direction) (window : Window) : Catalogue :=
  match body, direction with
  | .catalogue entries, _ => entries
  | .byDirection uplink _, .uplink => uplink
  | .byDirection _ downlink, .downlink => downlink
  | .byDirection uplink downlink, .unknown =>
      if window.hasUplinkDetachLength then uplink else downlink

def walk (body : MessageBody) (scope : Scope) (window : Window) : Walk :=
  (body.entries scope.direction window).walk scope window

def catalogue? : MessageBody → Option Catalogue
  | .catalogue entries => some entries
  | .byDirection _ _ => none

/-- The kind of a body and the number of its entries. -/
def text : MessageBody → String
  | .catalogue entries => s!"Catalogue({entries.length} elements)"
  | .byDirection _ _ => "Custom"

end MessageBody

def MobilityMessage.body : MobilityMessage → MessageBody
  | .attachRequest => .catalogue .attachRequest
  | .attachAccept => .catalogue .attachAccept
  | .attachComplete => .catalogue .attachComplete
  | .attachReject => .catalogue .attachReject
  | .detachRequest => .byDirection .uplinkDetachRequest .downlinkDetachRequest
  | .detachAccept => .catalogue []
  | .trackingAreaUpdateRequest => .catalogue .trackingAreaUpdateRequest
  | .trackingAreaUpdateAccept => .catalogue .trackingAreaUpdateAccept
  | .trackingAreaUpdateComplete => .catalogue []
  | .trackingAreaUpdateReject => .catalogue .trackingAreaUpdateReject
  | .extendedServiceRequest => .catalogue .extendedServiceRequest
  | .controlPlaneServiceRequest => .catalogue .controlPlaneServiceRequest
  | .serviceReject => .catalogue .serviceReject
  | .serviceAccept => .catalogue .serviceAccept
  | .gutiReallocationCommand => .catalogue .temporaryIdentityCommand
  | .gutiReallocationComplete => .catalogue []
  | .authenticationRequest => .catalogue .authenticationRequest
  | .authenticationResponse => .catalogue .authenticationResponse
  | .authenticationReject => .catalogue []
  | .identityRequest => .catalogue .identityRequest
  | .identityResponse => .catalogue .identityResponse
  | .authenticationFailure => .catalogue .authenticationFailure
  | .securityModeCommand => .catalogue .securityModeCommand
  | .securityModeComplete => .catalogue .securityModeComplete
  | .securityModeReject => .catalogue .mobilityCauseOnly
  | .emmStatus => .catalogue .mobilityCauseOnly
  | .emmInformation => .catalogue .networkInformation
  | .downlinkNasTransport => .catalogue .shortMessageTransport
  | .uplinkNasTransport => .catalogue .shortMessageTransport
  | .csServiceNotification => .catalogue .callNotification
  | .downlinkGenericNasTransport => .catalogue .genericTransport
  | .uplinkGenericNasTransport => .catalogue .genericTransport

def SessionMessage.body : SessionMessage → MessageBody
  | .activateDefaultEpsBearerContextRequest => .catalogue .activateDefaultBearerRequest
  | .activateDefaultEpsBearerContextAccept => .catalogue .optionsOnly
  | .activateDefaultEpsBearerContextReject => .catalogue .causeAndOptions
  | .activateDedicatedEpsBearerContextRequest => .catalogue .activateDedicatedBearerRequest
  | .activateDedicatedEpsBearerContextAccept => .catalogue .optionsAndFlowMobility
  | .activateDedicatedEpsBearerContextReject => .catalogue .causeOptionsAndFlowMobility
  | .modifyEpsBearerContextRequest => .catalogue .modifyBearerRequest
  | .modifyEpsBearerContextAccept => .catalogue .optionsAndFlowMobility
  | .modifyEpsBearerContextReject => .catalogue .causeOptionsAndFlowMobility
  | .deactivateEpsBearerContextRequest => .catalogue .deactivateBearerRequest
  | .deactivateEpsBearerContextAccept => .catalogue .optionsOnly
  | .pdnConnectivityRequest => .catalogue .connectivityRequest
  | .pdnConnectivityReject => .catalogue .rejectWithBackOff
  | .pdnDisconnectRequest => .catalogue .disconnectRequest
  | .pdnDisconnectReject => .catalogue .causeAndOptions
  | .bearerResourceAllocationRequest => .catalogue .resourceAllocationRequest
  | .bearerResourceAllocationReject => .catalogue .rejectWithBackOff
  | .bearerResourceModificationRequest => .catalogue .resourceModificationRequest
  | .bearerResourceModificationReject => .catalogue .rejectWithBackOff
  | .esmInformationRequest => .catalogue []
  | .esmInformationResponse => .catalogue .informationResponse
  | .notification => .catalogue .notification
  | .esmDummyMessage => .catalogue []
  | .esmStatus => .catalogue .sessionCauseOnly
  | .remoteUeReport => .catalogue .remoteTerminalReport
  | .remoteUeReportResponse => .catalogue []
  | .esmDataTransport => .catalogue .dataTransport

end LteNas
