import LteNas.ElementValue.Quality
import LteNas.ElementValue.Relay
import LteNas.ElementValue.Session
import LteNas.ElementValue.TrafficFlow
import LteNas.Proofs.ElementValue.Generic
import Mathlib.Data.List.Forall2

namespace LteNas

/-!
# Decoders of bearers

Connections, their quality and options, traffic flow templates, and the
terminals behind a relay.
-/

namespace ElementValue

open Reader

variable {site : Site}

/-! ## Connections -/

@[simp] theorem sessionCause_regular :
    OctetDecoder.Regular sessionCause :=
  .of_soleOctet fun _ => trivial

@[simp] theorem linkedBearer_isPlain :
    NibbleDecoder.IsPlain linkedBearer :=
  fun _ => trivial

@[simp] theorem requestType_isPlain :
    NibbleDecoder.IsPlain requestType :=
  fun _ => codedBy_isPlain _ _ _

@[simp] theorem connectionKind_isPlain :
    NibbleDecoder.IsPlain connectionKind :=
  fun _ => codedBy_isPlain _ _ _

@[simp] theorem connectivityType_isPlain :
    NibbleDecoder.IsPlain connectivityType :=
  fun _ => codedBit_isPlain _ _ _ _

@[simp] theorem informationTransfer_isPlain :
    NibbleDecoder.IsPlain informationTransfer :=
  fun _ => codedBit_isPlain _ _ _ _

@[simp] theorem offloadAcceptability_isPlain :
    NibbleDecoder.IsPlain offloadAcceptability := by
  intro nibble
  simp [offloadAcceptability]

@[simp] theorem controlPlaneOnly_isPlain :
    NibbleDecoder.IsPlain controlPlaneOnly :=
  fun _ => codedBit_isPlain _ _ _ _

@[simp] theorem releaseAssistance_isPlain :
    NibbleDecoder.IsPlain releaseAssistance :=
  fun _ => codedBy_isPlain _ _ _

theorem readAccessPointLabel_steady :
    readAccessPointLabel.Steady site Anything := by
  apply (number_steady 1).bind
  intro length _
  apply (blaming_steady (octets_steady length) _).bind
  intro label _
  exact .pure ⟨rfl, trivial⟩

@[simp] theorem accessPointName_regular :
    OctetDecoder.Regular accessPointName :=
  .of_steady fun _ =>
    (every_steady readAccessPointLabel_steady).bind fun _ _ => .pure ⟨rfl, trivial⟩

theorem readInterfaceIdentifier_steady :
    readInterfaceIdentifier.Steady site Field.IsPlain :=
  (octets_steady 8).bind fun _ _ => .pure ⟨rfl, by simp⟩

theorem readDottedAddress_steady :
    readDottedAddress.Steady site Field.IsPlain :=
  (octets_steady 4).bind fun _ _ => .pure ⟨rfl, by simp⟩

theorem readConnectionAddress_steady
    (kind : UInt8) :
    (readConnectionAddress kind).Steady site FieldsPlain := by
  simp only [readConnectionAddress]
  split
  · apply (expectExactly_steady 4).bind
    intro _ _
    exact readDottedAddress_steady.bind fun _ plain => .pure ⟨rfl, by simpa using plain⟩
  · apply (expectExactly_steady 8).bind
    intro _ _
    exact readInterfaceIdentifier_steady.bind fun _ plain => .pure ⟨rfl, by simpa using plain⟩
  · apply (expectExactly_steady 12).bind
    intro _ _
    apply readInterfaceIdentifier_steady.bind
    intro identifier identifierPlain
    apply readDottedAddress_steady.bind
    intro address addressPlain
    exact .pure ⟨rfl, by simp [identifierPlain, addressPlain]⟩
  · apply (ifMore_steady rest_steady).bind
    intro information _
    exact .pure ⟨rfl, by cases information <;> simp⟩

@[simp] theorem connectionAddress_regular :
    OctetDecoder.Regular connectionAddress := by
  apply OctetDecoder.Regular.of_steady
  intro site
  apply octet_steady.bind
  intro octet _
  apply (readConnectionAddress_steady _).bind
  intro addresses plain
  exact .pure ⟨rfl, by simpa using ⟨connectionKind_isPlain octet, plain⟩⟩

theorem readOption_steady :
    readOption.Steady site Value.IsPlain := by
  apply (number_steady 2).bind
  intro identifier _
  apply (number_steady 1).bind
  intro length _
  exact (octets_steady length).bind fun content _ => .pure ⟨rfl, by simp⟩

@[simp] theorem configurationOptions_regular :
    OctetDecoder.Regular configurationOptions := by
  apply OctetDecoder.Regular.of_steady
  intro site
  apply octet_steady.bind
  intro octet _
  apply (every_steady readOption_steady).bind
  intro options plain
  exact .pure ⟨rfl, by simpa using plain⟩

@[simp] theorem linkAccessPoint_regular :
    OctetDecoder.Regular linkAccessPoint :=
  .of_soleOctet fun _ => codedBy_isPlain _ _ _

@[simp] theorem packetFlow_regular :
    OctetDecoder.Regular packetFlow :=
  .of_soleOctet fun _ => codedBy_isPlain _ _ _

@[simp] theorem radioPriority_isPlain :
    NibbleDecoder.IsPlain radioPriority :=
  fun _ => codedBy_isPlain _ _ _

@[simp] theorem transaction_regular :
    OctetDecoder.Regular transaction := by
  apply OctetDecoder.Regular.of_steady
  intro site
  apply octet_steady.bind
  intro octet _
  apply (ifMore_steady octet_steady).bind
  intro extension _
  exact .pure ⟨rfl, by cases extension <;> simp⟩

@[simp] theorem notificationIndicator_regular :
    OctetDecoder.Regular notificationIndicator :=
  .of_soleOctet fun _ => codedBy_isPlain _ _ _

@[simp] theorem reattemptIndicator_regular :
    OctetDecoder.Regular reattemptIndicator :=
  .of_soleOctet fun _ => by simp

@[simp] theorem networkRateControl_regular :
    OctetDecoder.Regular networkRateControl := by
  apply OctetDecoder.Regular.of_steady
  intro site
  apply (soleNumber_steady 2).bind
  intro rate _
  exact .pure ⟨rfl, by split <;> trivial⟩

theorem readCompressionSetup_steady :
    readCompressionSetup.Steady site FieldsPlain := by
  apply (ifMore_steady octet_steady).bind
  intro kind _
  split
  · exact .pure ⟨rfl, by simp⟩
  · exact rest_steady.bind fun _ _ => .pure ⟨rfl, by simp⟩

@[simp] theorem headerCompression_regular :
    OctetDecoder.Regular headerCompression := by
  apply OctetDecoder.Regular.of_steady
  intro site
  apply (expectAtLeast_steady 3).bind
  intro _ _
  apply octet_steady.bind
  intro profiles _
  apply (number_steady 2).bind
  intro contexts _
  apply readCompressionSetup_steady.bind
  intro setup plain
  exact .pure ⟨rfl, by simp [compressionProfiles, plain]⟩

/-! ## Quality of service -/

theorem qualityRates_plain
    (base extended further : List UInt8) :
    FieldsPlain (qualityRates base extended further) := by
  rw [fieldsPlain_iff]
  intro part member
  obtain ⟨_, -, rfl⟩ := List.mem_map.mp member
  trivial

theorem readRateLayer_steady
    (width : Nat) :
    (readRateLayer width).Steady site Anything :=
  (ifMore_steady (octets_steady width)).bind fun _ _ => .pure ⟨rfl, trivial⟩

@[simp] theorem quality_regular :
    OctetDecoder.Regular quality := by
  apply OctetDecoder.Regular.of_steady
  intro site
  apply remaining_steady.bind
  intro length _
  split
  · apply octet_steady.bind
    intro code _
    apply (readRateLayer_steady 4).bind
    intro base _
    apply (readRateLayer_steady 4).bind
    intro extended _
    apply (readRateLayer_steady 4).bind
    intro further _
    refine .pure ⟨rfl, ?_⟩
    cases base.isEmpty <;> simp [qualityClass, qualityRates_plain]
  · exact fail_local _

@[simp] theorem extendedQuality_regular :
    OctetDecoder.Regular extendedQuality := by
  apply OctetDecoder.Regular.of_steady
  intro site
  apply (expectExactly_steady 10).bind
  intro _ _
  apply octet_steady.bind
  intro maximumCode _
  apply (number_steady 2).bind
  intro maximumUp _
  apply (number_steady 2).bind
  intro maximumDown _
  apply octet_steady.bind
  intro guaranteedCode _
  apply (number_steady 2).bind
  intro guaranteedUp _
  apply (number_steady 2).bind
  intro guaranteedDown _
  exact .pure ⟨rfl, by simp [rateField]⟩

@[simp] theorem aggregateRate_regular :
    OctetDecoder.Regular aggregateRate := by
  apply OctetDecoder.Regular.of_steady
  intro site
  apply remaining_steady.bind
  intro length _
  split
  · apply (readRateLayer_steady 2).bind
    intro base _
    apply (readRateLayer_steady 2).bind
    intro extended _
    apply (readRateLayer_steady 2).bind
    intro further _
    exact .pure ⟨rfl, by simp [rateField]⟩
  · exact fail_local _

theorem readAggregate_steady :
    readAggregate.Steady site Anything := by
  apply octet_steady.bind
  intro code _
  exact (number_steady 2).bind fun rate _ => .pure ⟨rfl, trivial⟩

@[simp] theorem extendedAggregateRate_regular :
    OctetDecoder.Regular extendedAggregateRate := by
  apply OctetDecoder.Regular.of_steady
  intro site
  apply (expectExactly_steady 6).bind
  intro _ _
  apply readAggregate_steady.bind
  intro down _
  apply readAggregate_steady.bind
  intro up _
  exact .pure ⟨rfl, by simp [rateField]⟩

/-! ## Traffic flow templates -/

theorem FilterContent.read_steady
    (content : FilterContent) :
    content.read.Steady site Value.IsPlain := by
  cases content with
  | dotted =>
      apply (octets_steady 4).bind
      intro address _
      exact (octets_steady 4).bind fun mask _ => .pure ⟨rfl, trivial⟩
  | masked =>
      apply (octets_steady 16).bind
      intro address _
      exact (octets_steady 16).bind fun mask _ => .pure ⟨rfl, trivial⟩
  | leading =>
      apply (octets_steady 16).bind
      intro address _
      exact (number_steady 1).bind fun length _ => .pure ⟨rfl, trivial⟩
  | number width =>
      exact (number_steady width).bind fun value _ => .pure ⟨rfl, trivial⟩
  | range =>
      apply (number_steady 2).bind
      intro low _
      exact (number_steady 2).bind fun high _ => .pure ⟨rfl, trivial⟩
  | trafficClass =>
      apply octet_steady.bind
      intro value _
      exact octet_steady.bind fun mask _ => .pure ⟨rfl, trivial⟩
  | flowLabel =>
      exact (number_steady 3).bind fun label _ => .pure ⟨rfl, trivial⟩

theorem readComponent_steady :
    readComponent.Steady site Value.IsPlain := by
  apply (number_steady 1).bind
  intro code _
  split
  · apply (FilterContent.read_steady _).bind
    intro content plain
    exact .pure ⟨rfl, by simpa [componentValue] using plain⟩
  · exact rest_steady.bind fun octets _ => .pure ⟨rfl, by simp [componentValue]⟩

/-- The components of a filter do not depend on where its content stands. -/
theorem filterComponents_eq
    {near far : Window}
    (sees : site.Sees near far) :
    filterComponents far = filterComponents near ∧
      ∀ components, filterComponents near = .ok components →
        ∀ item ∈ components, item.IsPlain := by
  have agree := every_steady readComponent_steady near far sees
  simp only [filterComponents]
  generalize every readComponent near = nearOutcome, every readComponent far = farOutcome
    at agree ⊢
  cases agree with
  | error =>
      exact ⟨rfl, nofun⟩
  | ok values _ =>
      obtain ⟨rfl, plain⟩ := values
      refine ⟨rfl, ?_⟩
      rintro _ ⟨⟩
      exact plain

theorem readFilter_steady :
    readFilter.Steady site Value.IsPlain := by
  apply octet_steady.bind
  intro octet _
  apply (number_steady 1).bind
  intro precedence _
  apply (number_steady 1).bind
  intro length _
  apply (inner_local length).bind
  intro near far sees
  obtain ⟨same, plain⟩ := filterComponents_eq sees
  rw [same]
  cases read : filterComponents near with
  | error fault =>
      exact fail_local fault
  | ok components =>
      refine .pure ⟨rfl, ?_⟩
      simpa using plain _ read

theorem readFilterIdentifier_steady :
    readFilterIdentifier.Steady site Value.IsPlain :=
  octet_steady.bind fun _ _ => .pure ⟨rfl, by simp⟩

theorem filterReader_steady
    (operation : UInt8) :
    (filterReader operation).Steady site Value.IsPlain := by
  rw [filterReader]
  split
  · exact readFilterIdentifier_steady
  · exact readFilter_steady

theorem readFlowParameter_steady :
    readFlowParameter.Steady site Value.IsPlain := by
  apply octet_steady.bind
  intro kind _
  apply (number_steady 1).bind
  intro length _
  exact (octets_steady length).bind fun content _ => .pure ⟨rfl, by simp⟩

theorem readFlowParameters_local
    (announced : Bool) :
    Local site (site.Reporting FieldsPlain)
      (readFlowParameters announced) (readFlowParameters announced) := by
  simp only [readFlowParameters]
  split
  · apply (completeOnes_local readFlowParameter_steady _).bind
    rintro ⟨parameters, near⟩ ⟨_, far⟩ ⟨rfl, plain, reported⟩
    exact .pure ⟨rfl, by simpa using plain, reported⟩
  · apply here_local.bind
    intro near far sees
    -- the fault tells how far the window has been read, which is not displaced
    have index_eq : far.index = near.index := by
      rw [sees.far_eq]
      rfl
    rw [Window.isEmpty, Window.isEmpty, Window.length, Window.length, sees.moved.rest_eq,
      sees.moved.remaining_eq, index_eq]
    split
    · exact .pure ⟨rfl, by simp, .nil⟩
    · exact fail_local _

theorem filterDiagnostics_reported
    {start farStart : Window}
    {complaints farComplaints : List Diagnostic}
    (sees : site.Sees start farStart)
    (reported : site.Reported complaints farComplaints)
    (declared found : Nat) :
    site.Reported
      (filterDiagnostics start declared found complaints)
      (filterDiagnostics farStart declared found farComplaints) := by
  have empty_eq : farComplaints.isEmpty = complaints.isEmpty := by
    rw [reported.far_eq, List.isEmpty_map]
  simp only [filterDiagnostics, empty_eq]
  split
  · exact .remaining sees trivial
  · exact reported

@[simp] theorem trafficFlow_regular :
    OctetDecoder.Regular trafficFlow := by
  apply OctetDecoder.Regular.reading
  intro site
  apply here_local.bind
  intro start farStart sees
  apply octet_steady.bind
  intro octet _
  apply (upTo_local (filterReader_steady _) _ _).bind
  rintro ⟨filters, complaints⟩ ⟨_, farComplaints⟩ ⟨rfl, filtersPlain, complaintsReported⟩
  apply (readFlowParameters_local _).bind
  rintro ⟨parameters, near⟩ ⟨_, far⟩ ⟨rfl, parametersPlain, reported⟩
  refine .pure ⟨rfl, ?_, ?_⟩
  · simpa using ⟨filtersPlain, parametersPlain⟩
  · exact (filterDiagnostics_reported sees complaintsReported _ _).append reported

/-! ## Terminals behind a relay -/

theorem readUserIdentity_steady :
    readUserIdentity.Steady site Value.IsPlain := by
  apply (number_steady 1).bind
  intro length _
  apply (inner_local length).bind
  intro near far sees
  rw [sees.moved.rest_eq]
  cases near.rest with
  | nil =>
      exact fail_local _
  | cons first octets =>
      exact .pure ⟨rfl, by simp⟩

theorem remoteAddressFields_plain
    (kind : String)
    (code : Nat)
    (address : Option String) :
    FieldsPlain (remoteAddressFields kind code address) := by
  cases address <;> simp [remoteAddressFields]

theorem readRemoteAddress_steady :
    readRemoteAddress.Steady site FieldsPlain := by
  apply octet_steady.bind
  intro octet _
  dsimp only
  split
  · exact .pure ⟨rfl, remoteAddressFields_plain _ _ _⟩
  · exact (octets_steady 4).bind fun _ _ => .pure ⟨rfl, remoteAddressFields_plain _ _ _⟩
  · exact (octets_steady 8).bind fun _ _ => .pure ⟨rfl, remoteAddressFields_plain _ _ _⟩
  · exact fail_local _

theorem readRemoteTerminal_steady :
    readRemoteTerminal.Steady site Value.IsPlain := by
  apply (number_steady 1).bind
  intro count _
  apply (times_steady readUserIdentity_steady count).bind
  intro identities identitiesPlain
  apply (ifMore_steady readRemoteAddress_steady).bind
  intro address addressPlain
  refine .pure ⟨rfl, ?_⟩
  cases address with
  | none =>
      simpa using identitiesPlain
  | some address =>
      simpa using ⟨identitiesPlain, addressPlain _ rfl⟩

theorem readRemoteWindow_local :
    Local site site.Sees readRemoteWindow readRemoteWindow :=
  (number_steady 1).bind fun length _ => inner_local length

theorem remoteTerminalValue_reporting
    {near far : Window}
    (sees : site.Sees near far) :
    site.Reporting Value.IsPlain (remoteTerminalValue near) (remoteTerminalValue far) := by
  have agree := readRemoteTerminal_steady near far sees
  simp only [remoteTerminalValue]
  generalize readRemoteTerminal near = nearOutcome, readRemoteTerminal far = farOutcome
    at agree ⊢
  cases agree with
  | error =>
      exact ⟨by rw [sees.moved.rest_eq], trivial, .remaining sees trivial⟩
  | ok values _ =>
      obtain ⟨rfl, plain⟩ := values
      exact ⟨rfl, plain, .nil⟩

theorem remoteCountComplaint_reported
    {near far : Window}
    (sees : site.Sees near far)
    (declared found : Nat)
    (leftOver : Bool) :
    site.Reported
      (remoteCountComplaint declared found leftOver near.remainingSpan)
      (remoteCountComplaint declared found leftOver far.remainingSpan) := by
  simp only [remoteCountComplaint]
  split
  · exact .remaining sees trivial
  · exact .nil

@[simp] theorem remoteTerminals_regular :
    OctetDecoder.Regular remoteTerminals := by
  refine .reading fun site start farStart sees => ?_
  have front := number_steady 1 start farStart sees
  generalize number 1 start = nearOutcome, number 1 farStart = farOutcome at front ⊢
  cases front with
  | error =>
      exact .error
  | @ok count _ near far values behind =>
      obtain ⟨rfl, -⟩ := values
      have agree := Window.run_agree readRemoteWindow_local count behind
      have terminals :
          List.Forall₂ (site.Reporting Value.IsPlain)
            ((near.run readRemoteWindow count).records.map remoteTerminalValue)
            ((far.run readRemoteWindow count).records.map remoteTerminalValue) := by
        rw [List.forall₂_map_left_iff, List.forall₂_map_right_iff]
        exact agree.records.imp fun _ _ sees => remoteTerminalValue_reporting sees
      obtain ⟨same, plain, reported⟩ := Site.Reporting.together terminals
      simp only [Bind.bind, Except.bind]
      refine .ok ⟨?_, ?_, ?_⟩ agree.tail.exhaust
      · rw [same]
      · simpa using plain
      · refine reported.append ?_
        simp only [same, agree.fault_eq, Window.isEmpty, agree.tail.moved.rest_eq]
        split
        · exact agree.complaint _
        · exact remoteCountComplaint_reported sees _ _ _

@[simp] theorem keyServerAddress_regular :
    OctetDecoder.Regular keyServerAddress := by
  apply OctetDecoder.Regular.of_steady
  intro site
  apply octet_steady.bind
  intro octet _
  dsimp only
  split
  · apply (expectExactly_steady 4).bind
    intro _ _
    exact (octets_steady 4).bind fun _ _ => .pure ⟨rfl, by simp [keyServerAddress.addressFields]⟩
  · apply (expectExactly_steady 16).bind
    intro _ _
    exact (octets_steady 16).bind fun _ _ => .pure ⟨rfl, by simp [keyServerAddress.addressFields]⟩
  · exact fail_local _

end ElementValue

end LteNas
