import LteNas.ElementValue.Call
import LteNas.ElementValue.Capability
import LteNas.ElementValue.NetworkName
import LteNas.ElementValue.Registration
import LteNas.Proofs.ElementValue.Generic

namespace LteNas

/-!
# Decoders of registration, capabilities and calls

What a terminal registers for, what both sides support, and whom it may call.
-/

namespace ElementValue

open Reader

variable {site : Site}

/-! ## Capabilities -/

theorem flagRecord_isPlain
    (name : String)
    (names : List String)
    (octet : UInt8) :
    (flagRecord name names octet).IsPlain := by
  simp [flagRecord]

theorem sevenFlagRecord_isPlain
    (name : String)
    (names : List String)
    (octet : UInt8) :
    (sevenFlagRecord name names octet).IsPlain := by
  have plain := flagFields_plain octet names
  rw [fieldsPlain_iff] at plain
  rw [sevenFlagRecord, Field.isPlain_mk, Value.IsPlain, fieldsPlain_iff]
  exact fun part member => plain part (List.mem_of_mem_drop member)

theorem readEpsAlgorithms_steady :
    readEpsAlgorithms.Steady site FieldsPlain := by
  apply (expectAtLeast_steady 2).bind
  intro _ _
  apply octet_steady.bind
  intro ciphering _
  apply octet_steady.bind
  intro integrity _
  exact .pure ⟨rfl, by simp [flagRecord_isPlain]⟩

theorem readRecord_steady
    {record : UInt8 → Field}
    (plain : ∀ octet, (record octet).IsPlain) :
    (readRecord record).Steady site FieldsPlain := by
  apply (ifMore_steady octet_steady).bind
  intro octet _
  refine .pure ⟨rfl, ?_⟩
  cases octet with
  | none =>
      simp
  | some octet =>
      simpa using plain octet

theorem readFurther_steady
    (name : String) :
    (readFurther name).Steady site FieldsPlain := by
  apply (ifMore_steady rest_steady).bind
  intro further _
  exact .pure ⟨rfl, by cases further <;> simp⟩

@[simp] theorem terminalNetworkCapability_regular :
    OctetDecoder.Regular terminalNetworkCapability := by
  apply OctetDecoder.Regular.of_steady
  intro site
  apply readEpsAlgorithms_steady.bind
  intro algorithms algorithmsPlain
  apply (readRecord_steady (flagRecord_isPlain _ _)).bind
  intro ciphering cipheringPlain
  apply (readRecord_steady (flagRecord_isPlain _ _)).bind
  intro integrity integrityPlain
  apply (readRecord_steady (flagRecord_isPlain _ _)).bind
  intro features featuresPlain
  apply (readRecord_steady (flagRecord_isPlain _ _)).bind
  intro things thingsPlain
  apply (readFurther_steady _).bind
  intro further furtherPlain
  exact .pure ⟨rfl, by simp [*]⟩

@[simp] theorem terminalSecurityCapability_regular :
    OctetDecoder.Regular terminalSecurityCapability := by
  apply OctetDecoder.Regular.of_steady
  intro site
  apply readEpsAlgorithms_steady.bind
  intro algorithms algorithmsPlain
  apply (readRecord_steady (flagRecord_isPlain _ _)).bind
  intro ciphering cipheringPlain
  apply (readRecord_steady (sevenFlagRecord_isPlain _ _)).bind
  intro integrity integrityPlain
  apply (readRecord_steady (sevenFlagRecord_isPlain _ _)).bind
  intro packet packetPlain
  apply hasMore_steady.bind
  intro more _
  split
  · apply here_local.bind
    intro near far sees
    -- the fault tells the length of the whole window, which is not displaced
    have length_eq : far.length = near.length := by
      rw [Window.length, Window.length, sees.moved.remaining_eq, sees.far_eq]
      rfl
    rw [length_eq]
    exact fail_local _
  · exact .pure ⟨rfl, by simp [*]⟩

@[simp] theorem packetNetworkCapability_regular :
    OctetDecoder.Regular packetNetworkCapability := by
  apply OctetDecoder.Regular.of_steady
  intro site
  apply octet_steady.bind
  intro octet _
  apply (readFurther_steady _).bind
  intro further furtherPlain
  exact .pure ⟨rfl, by simp [*]⟩

@[simp] theorem terminalFeature_isPlain :
    NibbleDecoder.IsPlain terminalFeature := by
  intro nibble
  simp [terminalFeature]

@[simp] theorem deviceProperties_isPlain :
    NibbleDecoder.IsPlain deviceProperties :=
  fun _ => codedBit_isPlain _ _ _ _

@[simp] theorem radioCapabilityUpdate_isPlain :
    NibbleDecoder.IsPlain radioCapabilityUpdate :=
  fun _ => codedBit_isPlain _ _ _ _

@[simp] theorem voicePreference_regular :
    OctetDecoder.Regular voicePreference :=
  .of_soleOctet fun _ => by simp

@[simp] theorem discontinuousReception_regular :
    OctetDecoder.Regular discontinuousReception := by
  apply OctetDecoder.Regular.of_steady
  intro site
  apply (expectExactly_steady 2).bind
  intro _ _
  apply (number_steady 1).bind
  intro split _
  apply octet_steady.bind
  intro octet _
  exact .pure ⟨rfl, by simp⟩

@[simp] theorem extendedReception_regular :
    OctetDecoder.Regular extendedReception := by
  apply OctetDecoder.Regular.of_steady
  intro site
  apply octet_steady.bind
  intro octet _
  apply (readFurther_steady _).bind
  intro further furtherPlain
  exact .pure ⟨rfl, by simp [*]⟩

@[simp] theorem networkFeatures_regular :
    OctetDecoder.Regular networkFeatures := by
  apply OctetDecoder.Regular.of_steady
  intro site
  apply octet_steady.bind
  intro octet _
  apply (ifMore_steady octet_steady).bind
  intro second _
  exact .pure ⟨rfl, by cases second <;> simp⟩

/-! ## Registration -/

@[simp] theorem mobilityCause_regular :
    OctetDecoder.Regular mobilityCause :=
  .of_soleOctet fun _ => trivial

@[simp] theorem extendedMobilityCause_isPlain :
    NibbleDecoder.IsPlain extendedMobilityCause := by
  intro nibble
  simp [extendedMobilityCause]

@[simp] theorem attachType_isPlain :
    NibbleDecoder.IsPlain attachType :=
  fun _ => codedBy_isPlain _ _ _

@[simp] theorem attachResult_isPlain :
    NibbleDecoder.IsPlain attachResult :=
  fun _ => codedBy_isPlain _ _ _

@[simp] theorem updateType_isPlain :
    NibbleDecoder.IsPlain updateType := by
  intro nibble
  simp [updateType]

@[simp] theorem updateResult_isPlain :
    NibbleDecoder.IsPlain updateResult :=
  fun _ => codedBy_isPlain _ _ _

@[simp] theorem additionalUpdateType_isPlain :
    NibbleDecoder.IsPlain additionalUpdateType := by
  intro nibble
  simp [additionalUpdateType]

@[simp] theorem additionalUpdateResult_isPlain :
    NibbleDecoder.IsPlain additionalUpdateResult :=
  fun _ => codedBy_isPlain _ _ _

theorem detachType_isPlain
    (kinds : List (Nat × String)) :
    NibbleDecoder.IsPlain (detachType kinds) := by
  intro nibble
  simp [detachType]

@[simp] theorem uplinkDetachType_isPlain :
    NibbleDecoder.IsPlain uplinkDetachType :=
  detachType_isPlain _

@[simp] theorem downlinkDetachType_isPlain :
    NibbleDecoder.IsPlain downlinkDetachType :=
  detachType_isPlain _

@[simp] theorem serviceType_isPlain :
    NibbleDecoder.IsPlain serviceType :=
  fun _ => codedBy_isPlain _ _ _

@[simp] theorem controlPlaneServiceType_isPlain :
    NibbleDecoder.IsPlain controlPlaneServiceType := by
  intro nibble
  simp [controlPlaneServiceType]

@[simp] theorem fallbackResponse_isPlain :
    NibbleDecoder.IsPlain fallbackResponse :=
  fun _ => codedBy_isPlain _ _ _

@[simp] theorem shortMessageStatus_isPlain :
    NibbleDecoder.IsPlain shortMessageStatus :=
  fun _ => codedBy_isPlain _ _ _

@[simp] theorem redirectionPolicy_isPlain :
    NibbleDecoder.IsPlain redirectionPolicy :=
  fun _ => codedBit_isPlain _ _ _ _

theorem readPagedBearers_steady
    (kind : UInt8) :
    (readPagedBearers kind).Steady site FieldsPlain := by
  simp only [readPagedBearers]
  split
  · exact readBearerFlags_steady.bind fun _ plain => .pure ⟨rfl, by simpa using plain⟩
  · exact .pure ⟨rfl, by simp⟩

@[simp] theorem pagingRestriction_regular :
    OctetDecoder.Regular pagingRestriction := by
  apply OctetDecoder.Regular.of_steady
  intro site
  apply octet_steady.bind
  intro octet _
  apply (readPagedBearers_steady _).bind
  intro bearers plain
  exact .pure ⟨rfl, by simpa using plain⟩

/-! ## Calls -/

theorem readEmergencyNumber_steady :
    readEmergencyNumber.Steady site Value.IsPlain := by
  apply (number_steady 1).bind
  intro length _
  split
  · exact fail_local _
  · apply (inner_local length).bind
    intro near far sees
    rw [Window.peek?, Window.peek?, sees.moved.rest_eq]
    exact .pure ⟨rfl, by simp [emergencyCategory]⟩

@[simp] theorem emergencyNumbers_regular :
    OctetDecoder.Regular emergencyNumbers := by
  apply OctetDecoder.Regular.reading
  intro site
  apply (completeOnes_local readEmergencyNumber_steady _).bind
  rintro ⟨numbers, near⟩ ⟨_, far⟩ ⟨rfl, plain, reported⟩
  exact .pure ⟨rfl, by simpa using plain, reported⟩

theorem readExtendedEmergencyNumber_steady :
    readExtendedEmergencyNumber.Steady site Value.IsPlain := by
  apply (number_steady 1).bind
  intro length _
  apply (octets_steady length).bind
  intro number _
  apply (number_steady 1).bind
  intro serviceLength _
  apply (octets_steady serviceLength).bind
  intro service _
  exact .pure ⟨rfl, by simp⟩

@[simp] theorem extendedEmergencyNumbers_regular :
    OctetDecoder.Regular extendedEmergencyNumbers := by
  apply OctetDecoder.Regular.reading
  intro site
  apply octet_steady.bind
  intro octet _
  apply (completeOnes_local readExtendedEmergencyNumber_steady _).bind
  rintro ⟨numbers, near⟩ ⟨_, far⟩ ⟨rfl, plain, reported⟩
  exact .pure ⟨rfl, by simpa using plain, reported⟩

theorem readPresentation_steady
    (first : UInt8) :
    (readPresentation first).Steady site FieldsPlain := by
  simp only [readPresentation]
  split
  · exact .pure ⟨rfl, by simp⟩
  · exact octet_steady.bind fun _ _ => .pure ⟨rfl, by simp⟩

@[simp] theorem callingLine_regular :
    OctetDecoder.Regular callingLine := by
  apply OctetDecoder.Regular.of_steady
  intro site
  apply octet_steady.bind
  intro octet _
  apply (readPresentation_steady octet).bind
  intro presentation plain
  apply rest_steady.bind
  intro digits _
  exact .pure ⟨rfl, by simp [plain]⟩

@[simp] theorem locationIndicator_regular :
    OctetDecoder.Regular locationIndicator :=
  .of_soleOctet fun _ => codedBy_isPlain _ _ _

/-! ## Names of networks -/

@[simp] theorem networkName_regular :
    OctetDecoder.Regular networkName := by
  apply OctetDecoder.Regular.of_steady
  intro site
  apply octet_steady.bind
  intro octet _
  apply rest_steady.bind
  intro octets _
  dsimp only
  split
  · exact fail_local _
  · rename_i coding _
    exact .pure ⟨rfl, by cases coding <;> simp [NameCoding.value]⟩

end ElementValue

end LteNas
