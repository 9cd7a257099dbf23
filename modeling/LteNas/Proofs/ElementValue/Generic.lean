import LteNas.ElementValue.Time
import LteNas.Proofs.Element.Regular

namespace LteNas

/-!
# Decoders of any message

Containers and octets of other protocols, plain numbers, flags of bearers, and times.
-/

namespace ElementValue

open Reader

@[simp] theorem uninterpreted_regular :
    OctetDecoder.Regular uninterpreted :=
  .of_steady fun _ => rest_steady.bind fun _ _ => .pure ⟨rfl, trivial⟩

@[simp] theorem handedTo_regular
    (protocol : String) :
    OctetDecoder.Regular (handedTo protocol) :=
  .of_steady fun _ => rest_steady.bind fun _ _ => .pure ⟨rfl, trivial⟩

@[simp] theorem unsigned_regular :
    OctetDecoder.Regular unsigned := by
  apply OctetDecoder.Regular.of_steady
  intro site
  apply remaining_steady.bind
  intro length _
  split
  · exact fail_local _
  · exact (number_steady length).bind fun _ _ => .pure ⟨rfl, trivial⟩

@[simp] theorem spareHalf_isPlain :
    NibbleDecoder.IsPlain spareHalf :=
  fun _ => trivial

theorem bearerFlags_isPlain
    (first second : UInt8) :
    (bearerFlags first second).IsPlain := by
  rw [bearerFlags, Value.IsPlain, fieldsPlain_iff]
  intro part member
  obtain ⟨bearer, -, rfl⟩ := List.mem_map.mp member
  split <;> exact flagField_isPlain _ _ _

theorem readBearerFlags_steady
    {site : Site} :
    readBearerFlags.Steady site Value.IsPlain := by
  apply (expectExactly_steady 2).bind
  intro _ _
  apply octet_steady.bind
  intro first _
  apply octet_steady.bind
  intro second _
  exact .pure ⟨rfl, bearerFlags_isPlain first second⟩

@[simp] theorem bearerStatus_regular :
    OctetDecoder.Regular bearerStatus :=
  .of_steady fun _ => readBearerFlags_steady

/-! ## Containers -/

@[simp] theorem replayedMessage_regular :
    OctetDecoder.Regular replayedMessage :=
  .carried .complete

@[simp] theorem sessionMessage_regular :
    OctetDecoder.Regular sessionMessage :=
  .session

@[simp] theorem genericContainerType_regular :
    OctetDecoder.Regular genericContainerType :=
  .containerType

@[simp] theorem genericContainer_regular :
    OctetDecoder.Regular genericContainer :=
  .container

@[simp] theorem userData_regular :
    OctetDecoder.Regular userData :=
  .userData

@[simp] theorem shortMessage_regular :
    OctetDecoder.Regular shortMessage :=
  handedTo_regular _

@[simp] theorem classmark_regular :
    OctetDecoder.Regular classmark :=
  handedTo_regular _

@[simp] theorem supportedCodecs_regular :
    OctetDecoder.Regular supportedCodecs :=
  handedTo_regular _

@[simp] theorem packetQuality_regular :
    OctetDecoder.Regular packetQuality :=
  handedTo_regular _

@[simp] theorem locationClient_regular :
    OctetDecoder.Regular locationClient :=
  handedTo_regular _

@[simp] theorem flowMobility_regular :
    OctetDecoder.Regular flowMobility :=
  handedTo_regular _

/-! ## Times -/

@[simp] theorem timer_regular :
    OctetDecoder.Regular timer :=
  .of_soleOctet fun _ => trivial

@[simp] theorem longTimer_regular :
    OctetDecoder.Regular longTimer :=
  .of_soleOctet fun _ => trivial

@[simp] theorem timeZone_regular :
    OctetDecoder.Regular timeZone :=
  .of_soleOctet fun _ => trivial

@[simp] theorem timeAndZone_regular :
    OctetDecoder.Regular timeAndZone := by
  apply OctetDecoder.Regular.of_steady
  intro site
  apply (expectExactly_steady 7).bind
  intro _ _
  apply (vector_steady 7).bind
  intro time _
  exact .pure ⟨rfl, trivial⟩

@[simp] theorem daylightSaving_regular :
    OctetDecoder.Regular daylightSaving :=
  .of_soleOctet fun _ => codedBy_isPlain _ _ _

end ElementValue

end LteNas
