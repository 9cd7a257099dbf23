import LteNas.Catalogue.MessageBody
import LteNas.Proofs.ElementValue.Bearer
import LteNas.Proofs.ElementValue.Subscriber
import LteNas.Proofs.ElementValue.Terminal

namespace LteNas

/-!
# The catalogues of the messages

The catalogues that messages of either protocol have, the two shapes of a
request to detach included.  All their decoders are regular.
-/

/-- The catalogues that a body may have. -/
def MessageBody.catalogues : MessageBody → List Catalogue
  | .catalogue entries => [entries]
  | .byDirection uplink downlink => [uplink, downlink]

/-- The catalogue belongs to a message of one of the two protocols. -/
def Catalogue.IsShipped (catalogue : Catalogue) : Prop :=
  (∃ message : MobilityMessage, catalogue ∈ message.body.catalogues) ∨
    ∃ message : SessionMessage, catalogue ∈ message.body.catalogues

/-- The entries that a body is walked with are one of its catalogues. -/
theorem MessageBody.entries_mem_catalogues
    (body : MessageBody)
    (direction : Direction)
    (window : Window) :
    body.entries direction window ∈ body.catalogues := by
  cases body with
  | catalogue entries =>
      exact List.mem_singleton_self entries
  | byDirection uplink downlink =>
      cases direction with
      | uplink =>
          exact List.mem_cons_self
      | downlink =>
          exact List.mem_cons_of_mem _ List.mem_cons_self
      | unknown =>
          rw [entries]
          split
          · exact List.mem_cons_self
          · exact List.mem_cons_of_mem _ List.mem_cons_self

open Catalogue

theorem mobilityCatalogues_regular
    (message : MobilityMessage) :
    ∀ catalogue ∈ message.body.catalogues, catalogue.Regular := by
  cases message <;>
    simp [MobilityMessage.body, MessageBody.catalogues, attachRequest, attachAccept,
      attachComplete, attachReject, uplinkDetachRequest, downlinkDetachRequest,
      trackingAreaUpdateRequest, trackingAreaUpdateAccept, trackingAreaUpdateReject,
      extendedServiceRequest, controlPlaneServiceRequest, serviceReject, serviceAccept,
      temporaryIdentityCommand, authenticationRequest, authenticationResponse,
      authenticationFailure, identityRequest, identityResponse, securityModeCommand,
      securityModeComplete, mobilityCauseOnly, networkInformation, shortMessageTransport,
      callNotification, genericTransport]

theorem sessionCatalogues_regular
    (message : SessionMessage) :
    ∀ catalogue ∈ message.body.catalogues, catalogue.Regular := by
  cases message <;>
    simp [SessionMessage.body, MessageBody.catalogues, activateDefaultBearerRequest, optionsOnly,
      causeAndOptions, optionsAndFlowMobility, causeOptionsAndFlowMobility,
      activateDedicatedBearerRequest, modifyBearerRequest, deactivateBearerRequest,
      connectivityRequest, rejectWithBackOff, disconnectRequest, resourceAllocationRequest,
      resourceModificationRequest, informationResponse, notification, sessionCauseOnly,
      remoteTerminalReport, dataTransport]

theorem Catalogue.IsShipped.regular
    {catalogue : Catalogue}
    (shipped : catalogue.IsShipped) :
    catalogue.Regular := by
  rcases shipped with ⟨message, member⟩ | ⟨message, member⟩
  · exact mobilityCatalogues_regular message catalogue member
  · exact sessionCatalogues_regular message catalogue member

end LteNas
