namespace LteNas

/-!
# Message types

The messages of the two management protocols, with their codes and names.
-/

/-- The messages of mobility management. -/
inductive MobilityMessage where
  | attachRequest
  | attachAccept
  | attachComplete
  | attachReject
  | detachRequest
  | detachAccept
  | trackingAreaUpdateRequest
  | trackingAreaUpdateAccept
  | trackingAreaUpdateComplete
  | trackingAreaUpdateReject
  | extendedServiceRequest
  | controlPlaneServiceRequest
  | serviceReject
  | serviceAccept
  | gutiReallocationCommand
  | gutiReallocationComplete
  | authenticationRequest
  | authenticationResponse
  | authenticationReject
  | identityRequest
  | identityResponse
  | authenticationFailure
  | securityModeCommand
  | securityModeComplete
  | securityModeReject
  | emmStatus
  | emmInformation
  | downlinkNasTransport
  | uplinkNasTransport
  | csServiceNotification
  | downlinkGenericNasTransport
  | uplinkGenericNasTransport
  deriving Repr, DecidableEq

namespace MobilityMessage

def code : MobilityMessage → UInt8
  | .attachRequest => 0x41
  | .attachAccept => 0x42
  | .attachComplete => 0x43
  | .attachReject => 0x44
  | .detachRequest => 0x45
  | .detachAccept => 0x46
  | .trackingAreaUpdateRequest => 0x48
  | .trackingAreaUpdateAccept => 0x49
  | .trackingAreaUpdateComplete => 0x4A
  | .trackingAreaUpdateReject => 0x4B
  | .extendedServiceRequest => 0x4C
  | .controlPlaneServiceRequest => 0x4D
  | .serviceReject => 0x4E
  | .serviceAccept => 0x4F
  | .gutiReallocationCommand => 0x50
  | .gutiReallocationComplete => 0x51
  | .authenticationRequest => 0x52
  | .authenticationResponse => 0x53
  | .authenticationReject => 0x54
  | .identityRequest => 0x55
  | .identityResponse => 0x56
  | .authenticationFailure => 0x5C
  | .securityModeCommand => 0x5D
  | .securityModeComplete => 0x5E
  | .securityModeReject => 0x5F
  | .emmStatus => 0x60
  | .emmInformation => 0x61
  | .downlinkNasTransport => 0x62
  | .uplinkNasTransport => 0x63
  | .csServiceNotification => 0x64
  | .downlinkGenericNasTransport => 0x68
  | .uplinkGenericNasTransport => 0x69

def ofCode? (code : UInt8) : Option MobilityMessage :=
  match code.toNat with
  | 0x41 => some .attachRequest
  | 0x42 => some .attachAccept
  | 0x43 => some .attachComplete
  | 0x44 => some .attachReject
  | 0x45 => some .detachRequest
  | 0x46 => some .detachAccept
  | 0x48 => some .trackingAreaUpdateRequest
  | 0x49 => some .trackingAreaUpdateAccept
  | 0x4A => some .trackingAreaUpdateComplete
  | 0x4B => some .trackingAreaUpdateReject
  | 0x4C => some .extendedServiceRequest
  | 0x4D => some .controlPlaneServiceRequest
  | 0x4E => some .serviceReject
  | 0x4F => some .serviceAccept
  | 0x50 => some .gutiReallocationCommand
  | 0x51 => some .gutiReallocationComplete
  | 0x52 => some .authenticationRequest
  | 0x53 => some .authenticationResponse
  | 0x54 => some .authenticationReject
  | 0x55 => some .identityRequest
  | 0x56 => some .identityResponse
  | 0x5C => some .authenticationFailure
  | 0x5D => some .securityModeCommand
  | 0x5E => some .securityModeComplete
  | 0x5F => some .securityModeReject
  | 0x60 => some .emmStatus
  | 0x61 => some .emmInformation
  | 0x62 => some .downlinkNasTransport
  | 0x63 => some .uplinkNasTransport
  | 0x64 => some .csServiceNotification
  | 0x68 => some .downlinkGenericNasTransport
  | 0x69 => some .uplinkGenericNasTransport
  | _ => none

def name : MobilityMessage → String
  | .attachRequest => "Attach request"
  | .attachAccept => "Attach accept"
  | .attachComplete => "Attach complete"
  | .attachReject => "Attach reject"
  | .detachRequest => "Detach request"
  | .detachAccept => "Detach accept"
  | .trackingAreaUpdateRequest => "Tracking area update request"
  | .trackingAreaUpdateAccept => "Tracking area update accept"
  | .trackingAreaUpdateComplete => "Tracking area update complete"
  | .trackingAreaUpdateReject => "Tracking area update reject"
  | .extendedServiceRequest => "Extended service request"
  | .controlPlaneServiceRequest => "Control plane service request"
  | .serviceReject => "Service reject"
  | .serviceAccept => "Service accept"
  | .gutiReallocationCommand => "GUTI reallocation command"
  | .gutiReallocationComplete => "GUTI reallocation complete"
  | .authenticationRequest => "Authentication request"
  | .authenticationResponse => "Authentication response"
  | .authenticationReject => "Authentication reject"
  | .identityRequest => "Identity request"
  | .identityResponse => "Identity response"
  | .authenticationFailure => "Authentication failure"
  | .securityModeCommand => "Security mode command"
  | .securityModeComplete => "Security mode complete"
  | .securityModeReject => "Security mode reject"
  | .emmStatus => "EMM status"
  | .emmInformation => "EMM information"
  | .downlinkNasTransport => "Downlink NAS transport"
  | .uplinkNasTransport => "Uplink NAS transport"
  | .csServiceNotification => "CS service notification"
  | .downlinkGenericNasTransport => "Downlink generic NAS transport"
  | .uplinkGenericNasTransport => "Uplink generic NAS transport"

end MobilityMessage

/-- The messages of session management. -/
inductive SessionMessage where
  | activateDefaultEpsBearerContextRequest
  | activateDefaultEpsBearerContextAccept
  | activateDefaultEpsBearerContextReject
  | activateDedicatedEpsBearerContextRequest
  | activateDedicatedEpsBearerContextAccept
  | activateDedicatedEpsBearerContextReject
  | modifyEpsBearerContextRequest
  | modifyEpsBearerContextAccept
  | modifyEpsBearerContextReject
  | deactivateEpsBearerContextRequest
  | deactivateEpsBearerContextAccept
  | pdnConnectivityRequest
  | pdnConnectivityReject
  | pdnDisconnectRequest
  | pdnDisconnectReject
  | bearerResourceAllocationRequest
  | bearerResourceAllocationReject
  | bearerResourceModificationRequest
  | bearerResourceModificationReject
  | esmInformationRequest
  | esmInformationResponse
  | notification
  | esmDummyMessage
  | esmStatus
  | remoteUeReport
  | remoteUeReportResponse
  | esmDataTransport
  deriving Repr, DecidableEq

namespace SessionMessage

def code : SessionMessage → UInt8
  | .activateDefaultEpsBearerContextRequest => 0xC1
  | .activateDefaultEpsBearerContextAccept => 0xC2
  | .activateDefaultEpsBearerContextReject => 0xC3
  | .activateDedicatedEpsBearerContextRequest => 0xC5
  | .activateDedicatedEpsBearerContextAccept => 0xC6
  | .activateDedicatedEpsBearerContextReject => 0xC7
  | .modifyEpsBearerContextRequest => 0xC9
  | .modifyEpsBearerContextAccept => 0xCA
  | .modifyEpsBearerContextReject => 0xCB
  | .deactivateEpsBearerContextRequest => 0xCD
  | .deactivateEpsBearerContextAccept => 0xCE
  | .pdnConnectivityRequest => 0xD0
  | .pdnConnectivityReject => 0xD1
  | .pdnDisconnectRequest => 0xD2
  | .pdnDisconnectReject => 0xD3
  | .bearerResourceAllocationRequest => 0xD4
  | .bearerResourceAllocationReject => 0xD5
  | .bearerResourceModificationRequest => 0xD6
  | .bearerResourceModificationReject => 0xD7
  | .esmInformationRequest => 0xD9
  | .esmInformationResponse => 0xDA
  | .notification => 0xDB
  | .esmDummyMessage => 0xDC
  | .esmStatus => 0xE8
  | .remoteUeReport => 0xE9
  | .remoteUeReportResponse => 0xEA
  | .esmDataTransport => 0xEB

def ofCode? (code : UInt8) : Option SessionMessage :=
  match code.toNat with
  | 0xC1 => some .activateDefaultEpsBearerContextRequest
  | 0xC2 => some .activateDefaultEpsBearerContextAccept
  | 0xC3 => some .activateDefaultEpsBearerContextReject
  | 0xC5 => some .activateDedicatedEpsBearerContextRequest
  | 0xC6 => some .activateDedicatedEpsBearerContextAccept
  | 0xC7 => some .activateDedicatedEpsBearerContextReject
  | 0xC9 => some .modifyEpsBearerContextRequest
  | 0xCA => some .modifyEpsBearerContextAccept
  | 0xCB => some .modifyEpsBearerContextReject
  | 0xCD => some .deactivateEpsBearerContextRequest
  | 0xCE => some .deactivateEpsBearerContextAccept
  | 0xD0 => some .pdnConnectivityRequest
  | 0xD1 => some .pdnConnectivityReject
  | 0xD2 => some .pdnDisconnectRequest
  | 0xD3 => some .pdnDisconnectReject
  | 0xD4 => some .bearerResourceAllocationRequest
  | 0xD5 => some .bearerResourceAllocationReject
  | 0xD6 => some .bearerResourceModificationRequest
  | 0xD7 => some .bearerResourceModificationReject
  | 0xD9 => some .esmInformationRequest
  | 0xDA => some .esmInformationResponse
  | 0xDB => some .notification
  | 0xDC => some .esmDummyMessage
  | 0xE8 => some .esmStatus
  | 0xE9 => some .remoteUeReport
  | 0xEA => some .remoteUeReportResponse
  | 0xEB => some .esmDataTransport
  | _ => none

def name : SessionMessage → String
  | .activateDefaultEpsBearerContextRequest => "Activate default EPS bearer context request"
  | .activateDefaultEpsBearerContextAccept => "Activate default EPS bearer context accept"
  | .activateDefaultEpsBearerContextReject => "Activate default EPS bearer context reject"
  | .activateDedicatedEpsBearerContextRequest => "Activate dedicated EPS bearer context request"
  | .activateDedicatedEpsBearerContextAccept => "Activate dedicated EPS bearer context accept"
  | .activateDedicatedEpsBearerContextReject => "Activate dedicated EPS bearer context reject"
  | .modifyEpsBearerContextRequest => "Modify EPS bearer context request"
  | .modifyEpsBearerContextAccept => "Modify EPS bearer context accept"
  | .modifyEpsBearerContextReject => "Modify EPS bearer context reject"
  | .deactivateEpsBearerContextRequest => "Deactivate EPS bearer context request"
  | .deactivateEpsBearerContextAccept => "Deactivate EPS bearer context accept"
  | .pdnConnectivityRequest => "PDN connectivity request"
  | .pdnConnectivityReject => "PDN connectivity reject"
  | .pdnDisconnectRequest => "PDN disconnect request"
  | .pdnDisconnectReject => "PDN disconnect reject"
  | .bearerResourceAllocationRequest => "Bearer resource allocation request"
  | .bearerResourceAllocationReject => "Bearer resource allocation reject"
  | .bearerResourceModificationRequest => "Bearer resource modification request"
  | .bearerResourceModificationReject => "Bearer resource modification reject"
  | .esmInformationRequest => "ESM information request"
  | .esmInformationResponse => "ESM information response"
  | .notification => "Notification"
  | .esmDummyMessage => "ESM dummy message"
  | .esmStatus => "ESM status"
  | .remoteUeReport => "Remote UE report"
  | .remoteUeReportResponse => "Remote UE report response"
  | .esmDataTransport => "ESM data transport"

end SessionMessage

end LteNas
