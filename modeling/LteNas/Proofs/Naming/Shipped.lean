import LteNas.Proofs.Catalogue.Shipped
import LteNas.Proofs.Naming.Bearer
import LteNas.Proofs.Naming.Terminal

namespace LteNas

/-!
# What is said in messages

The names of the messages and the labels of their elements are headings, and so
are the names that the decoders of their catalogues give.
-/

open Text

/-! ## Catalogues -/

@[simp] theorem Decoder.obeys_nibble
    (decode : NibbleDecoder) :
    (Decoder.nibble decode).Obeys ↔ decode.Obeys :=
  Iff.rfl

@[simp] theorem Decoder.obeys_octets
    (decode : OctetDecoder) :
    (Decoder.octets decode).Obeys ↔ decode.Obeys :=
  Iff.rfl

theorem ElementSpec.obeys_iff
    {spec : ElementSpec} :
    spec.Obeys ↔ IsHeading spec.label ∧ spec.decoder.Obeys :=
  ⟨fun obeys => ⟨obeys.label, obeys.decoder⟩, fun ⟨label, decoder⟩ => ⟨label, decoder⟩⟩

open Catalogue ElementSpec

theorem mobilityCatalogues_obey
    (message : MobilityMessage) :
    ∀ catalogue ∈ message.body.catalogues, catalogue.Obeys := by
  cases message <;>
    simp only [MobilityMessage.body, MessageBody.catalogues, attachRequest, attachAccept,
      attachComplete, attachReject, uplinkDetachRequest, downlinkDetachRequest,
      trackingAreaUpdateRequest, trackingAreaUpdateAccept, trackingAreaUpdateReject,
      extendedServiceRequest, controlPlaneServiceRequest, serviceReject, serviceAccept,
      temporaryIdentityCommand, authenticationRequest, authenticationResponse,
      authenticationFailure, identityRequest, identityResponse, securityModeCommand,
      securityModeComplete, mobilityCauseOnly, networkInformation, shortMessageTransport,
      callNotification, genericTransport, lowHalf, highHalf, fixed, sized, sizedExtended,
      tagged, taggedHalf, taggedSized, taggedSizedExtended, Catalogue.Obeys,
      ElementSpec.obeys_iff, List.forall_mem_cons, List.not_mem_nil, false_imp_iff,
      implies_true, and_true] <;>
    and_intros <;>
    first
    | exact .of_characters rfl
    | simp

theorem sessionCatalogues_obey
    (message : SessionMessage) :
    ∀ catalogue ∈ message.body.catalogues, catalogue.Obeys := by
  cases message <;>
    simp only [SessionMessage.body, MessageBody.catalogues, activateDefaultBearerRequest,
      optionsOnly, causeAndOptions, optionsAndFlowMobility, causeOptionsAndFlowMobility,
      activateDedicatedBearerRequest, modifyBearerRequest, deactivateBearerRequest,
      connectivityRequest, rejectWithBackOff, disconnectRequest, resourceAllocationRequest,
      resourceModificationRequest, informationResponse, notification, sessionCauseOnly,
      remoteTerminalReport, dataTransport, lowHalf, highHalf, fixed, sized, sizedExtended,
      tagged, taggedHalf, taggedSized, taggedSizedExtended, Catalogue.Obeys,
      ElementSpec.obeys_iff, List.forall_mem_cons, List.not_mem_nil, false_imp_iff,
      implies_true, and_true] <;>
    and_intros <;>
    first
    | exact .of_characters rfl
    | simp

/-! ## Message types -/

theorem MobilityMessage.name_isHeading
    (message : MobilityMessage) :
    IsHeading message.name := by
  cases message <;> exact .of_characters rfl

theorem SessionMessage.name_isHeading
    (message : SessionMessage) :
    IsHeading message.name := by
  cases message <;> exact .of_characters rfl

end LteNas
