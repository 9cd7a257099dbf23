import LteNas.ElementValue.Security
import LteNas.Proofs.ElementValue.Generic

namespace LteNas

/-!
# Decoders of identities, areas and keys

Identities of unknown kind and bad partial lists are reported over the octets
from a window on that was kept; it is among the octets of the site all the same.
-/

namespace ElementValue

open Reader

variable {site : Site}

/-! ## Identities -/

theorem readUnknownIdentity_local
    {start farStart : Window}
    (sees : site.Sees start farStart)
    (kind : UInt8) :
    Local site (site.Reporting FieldsPlain)
      (readUnknownIdentity start kind) (readUnknownIdentity farStart kind) := by
  apply rest_steady.bind
  intro octets _
  refine .pure ⟨rfl, ?_, .remaining sees trivial⟩
  simp

theorem readMobileDigits_steady
    (name : String)
    (first : UInt8) :
    (readMobileDigits name first).Steady site FieldsPlain :=
  rest_steady.bind fun _ _ => .pure ⟨rfl, by simp⟩

theorem readMobileIdentityBody_local
    {start farStart : Window}
    (sees : site.Sees start farStart)
    (first : UInt8) :
    Local site (site.Reporting FieldsPlain)
      (readMobileIdentityBody start first) (readMobileIdentityBody farStart first) := by
  simp only [readMobileIdentityBody]
  split
  · exact rest_steady.bind fun _ _ => .pure ⟨rfl, by simp, .nil⟩
  · exact (readMobileDigits_steady _ first).bind fun _ plain => .pure ⟨rfl, plain, .nil⟩
  · exact (readMobileDigits_steady _ first).bind fun _ plain => .pure ⟨rfl, plain, .nil⟩
  · exact (readMobileDigits_steady _ first).bind fun _ plain => .pure ⟨rfl, plain, .nil⟩
  · exact (soleNumber_steady 4).bind fun _ _ => .pure ⟨rfl, by simp, .nil⟩
  · exact rest_steady.bind fun _ _ => .pure ⟨rfl, by simp, .nil⟩
  · exact readUnknownIdentity_local sees _

@[simp] theorem mobileIdentity_regular :
    OctetDecoder.Regular mobileIdentity := by
  apply OctetDecoder.Regular.reading
  intro site
  apply here_local.bind
  intro start farStart sees
  apply octet_steady.bind
  intro first _
  apply (readMobileIdentityBody_local sees first).bind
  rintro ⟨parts, near⟩ ⟨_, far⟩ ⟨rfl, plain, reported⟩
  exact .pure ⟨rfl, by simpa using plain, reported⟩

theorem readEpsDigits_steady
    (name : String)
    (first : UInt8) :
    (readEpsDigits name first).Steady site FieldsPlain :=
  rest_steady.bind fun _ _ => .pure ⟨rfl, by simp⟩

theorem readPlmn_steady :
    readPlmn.Steady site Anything :=
  (vector_steady 3).bind fun _ _ => .pure ⟨rfl, trivial⟩

theorem readTemporaryIdentity_steady :
    readTemporaryIdentity.Steady site FieldsPlain := by
  apply (expectExactly_steady 10).bind
  intro _ _
  apply readPlmn_steady.bind
  intro plmn _
  apply (number_steady 2).bind
  intro group _
  apply (number_steady 1).bind
  intro code _
  apply (number_steady 4).bind
  intro temporary _
  exact .pure ⟨rfl, by simp⟩

theorem readEpsIdentityBody_local
    {start farStart : Window}
    (sees : site.Sees start farStart)
    (first : UInt8) :
    Local site (site.Reporting FieldsPlain)
      (readEpsIdentityBody start first) (readEpsIdentityBody farStart first) := by
  simp only [readEpsIdentityBody]
  split
  · exact (readEpsDigits_steady _ first).bind fun _ plain => .pure ⟨rfl, plain, .nil⟩
  · exact (readEpsDigits_steady _ first).bind fun _ plain => .pure ⟨rfl, plain, .nil⟩
  · exact readTemporaryIdentity_steady.bind fun _ plain => .pure ⟨rfl, plain, .nil⟩
  · exact readUnknownIdentity_local sees _

@[simp] theorem epsMobileIdentity_regular :
    OctetDecoder.Regular epsMobileIdentity := by
  apply OctetDecoder.Regular.reading
  intro site
  apply here_local.bind
  intro start farStart sees
  apply octet_steady.bind
  intro first _
  apply (readEpsIdentityBody_local sees first).bind
  rintro ⟨parts, near⟩ ⟨_, far⟩ ⟨rfl, plain, reported⟩
  exact .pure ⟨rfl, by simpa using plain, reported⟩

@[simp] theorem requestedIdentity_isPlain :
    NibbleDecoder.IsPlain requestedIdentity :=
  fun _ => codedBy_isPlain _ _ _

@[simp] theorem pagingIdentity_regular :
    OctetDecoder.Regular pagingIdentity :=
  .of_soleOctet fun _ => codedBit_isPlain _ _ _ _

@[simp] theorem temporaryIdentitySignature_regular :
    OctetDecoder.Regular temporaryIdentitySignature :=
  .of_steady fun _ => (soleNumber_steady 3).bind fun _ _ => .pure ⟨rfl, trivial⟩

@[simp] theorem temporaryIdentityStatus_isPlain :
    NibbleDecoder.IsPlain temporaryIdentityStatus :=
  fun _ => codedBit_isPlain _ _ _ _

@[simp] theorem temporaryIdentityOrigin_isPlain :
    NibbleDecoder.IsPlain temporaryIdentityOrigin :=
  fun _ => codedBit_isPlain _ _ _ _

/-! ## Areas -/

@[simp] theorem locationArea_regular :
    OctetDecoder.Regular locationArea := by
  apply OctetDecoder.Regular.of_steady
  intro site
  apply (expectExactly_steady 5).bind
  intro _ _
  apply readPlmn_steady.bind
  intro plmn _
  apply (number_steady 2).bind
  intro code _
  exact .pure ⟨rfl, by simp⟩

@[simp] theorem networkList_regular :
    OctetDecoder.Regular networkList := by
  apply OctetDecoder.Regular.of_steady
  intro site
  apply remaining_steady.bind
  intro length _
  split
  · exact fail_local _
  · apply (every_steady readPlmn_steady).bind
    intro networks _
    exact .pure ⟨rfl, by simp⟩

theorem readTrackingArea_steady :
    readTrackingArea.Steady site Anything := by
  apply readPlmn_steady.bind
  intro plmn _
  exact (number_steady 2).bind fun code _ => .pure ⟨rfl, trivial⟩

@[simp] theorem trackingArea_regular :
    OctetDecoder.Regular trackingArea := by
  apply OctetDecoder.Regular.of_steady
  intro site
  apply (expectExactly_steady 5).bind
  intro _ _
  exact readTrackingArea_steady.bind fun area _ => .pure ⟨rfl, trivial⟩

theorem readAreas_steady
    (coding : AreaCoding)
    (declared : Nat) :
    (coding.readAreas declared).Steady site Anything := by
  cases coding with
  | oneNetwork =>
      apply readPlmn_steady.bind
      intro plmn _
      apply (available_steady (number_steady 2) declared).bind
      intro codes _
      exact .pure ⟨rfl, trivial⟩
  | consecutive =>
      apply readPlmn_steady.bind
      intro plmn _
      apply (number_steady 2).bind
      intro first _
      exact .pure ⟨rfl, trivial⟩
  | severalNetworks =>
      exact (available_steady readTrackingArea_steady declared).mono fun _ _ => trivial

theorem partialListValue_isPlain
    (coding : AreaCoding)
    (declared : Nat)
    (areas : List TrackingArea) :
    (partialListValue coding declared areas).IsPlain := by
  cases coding <;> simp [partialListValue, AreaCoding.value]

/-- Partial lists are the same further on, and so is what is wrong with the last of them. -/
structure AreaLists.Agree
    (site : Site)
    (near far : AreaLists) :
    Prop where
  items_eq : far.items = near.items
  plain : ∀ item ∈ near.items, item.IsPlain
  reported : site.Reported near.diagnostics far.diagnostics

theorem readAreaLists_agree
    {near far : Window}
    (limit : Nat)
    (sees : site.Sees near far) :
    AreaLists.Agree site (readAreaLists limit near) (readAreaLists limit far) := by
  induction limit generalizing near far with
  | zero =>
      exact ⟨rfl, by simp [readAreaLists], .nil⟩
  | succ limit inductionHypothesis =>
      cases shape : near.rest with
      | nil =>
          simp only [readAreaLists, Window.octet_of_nil shape,
            Window.octet_of_nil (sees.moved.rest_eq.trans shape)]
          exact ⟨rfl, by simp, .nil⟩
      | cons header others =>
          have behind : site.Sees (near.advance 1) (far.advance 1) :=
            sees.advance (by simp [Window.remaining, shape])
          simp only [readAreaLists, Window.octet_of_cons shape,
            Window.octet_of_cons (sees.moved.rest_eq.trans shape)]
          cases AreaCoding.ofCode? (areaCodingNumber header) with
          | none =>
              refine ⟨?_, by simp, .remaining sees trivial⟩
              rw [behind.moved.rest_eq]
          | some coding =>
              have agree :=
                readAreas_steady coding (declaredAreas header) _ _ behind
              dsimp only
              generalize coding.readAreas (declaredAreas header) (near.advance 1) = nearOutcome,
                coding.readAreas (declaredAreas header) (far.advance 1) = farOutcome
                at agree ⊢
              cases agree with
              | error =>
                  exact ⟨rfl, by simp, .remaining sees trivial⟩
              | @ok areas _ _ _ values after =>
                  obtain ⟨rfl, -⟩ := values
                  have plain := partialListValue_isPlain coding (declaredAreas header) areas
                  by_cases few : areas.length < declaredAreas header
                  · simp only [few, if_true]
                    exact ⟨rfl, by simpa using plain, .remaining sees trivial⟩
                  · simp only [few, if_false]
                    have rest := inductionHypothesis after
                    refine ⟨by rw [rest.items_eq], ?_, rest.reported⟩
                    exact List.forall_mem_cons.mpr ⟨plain, rest.plain⟩

@[simp] theorem trackingAreaList_regular :
    OctetDecoder.Regular trackingAreaList := by
  apply OctetDecoder.Regular.reading
  intro site near far sees
  have agree := readAreaLists_agree near.remaining sees
  simp only [readTrackingAreaList, sees.moved.remaining_eq]
  refine .ok ⟨?_, ?_, agree.reported⟩ sees.exhaust
  · rw [agree.items_eq]
  · simpa using agree.plain

/-! ## Keys -/

@[simp] theorem keySetIdentifier_isPlain :
    NibbleDecoder.IsPlain keySetIdentifier := by
  intro nibble
  simp [keySetIdentifier]

@[simp] theorem cipheringKeyNumber_isPlain :
    NibbleDecoder.IsPlain cipheringKeyNumber :=
  fun _ => codedBy_isPlain _ _ _

@[simp] theorem equipmentIdentityRequest_isPlain :
    NibbleDecoder.IsPlain equipmentIdentityRequest :=
  fun _ => codedBy_isPlain _ _ _

@[simp] theorem selectedAlgorithms_regular :
    OctetDecoder.Regular selectedAlgorithms :=
  .of_soleOctet fun _ => by simp

@[simp] theorem nonce_regular :
    OctetDecoder.Regular nonce :=
  .of_steady fun _ => (soleNumber_steady 4).bind fun _ _ => .pure ⟨rfl, trivial⟩

@[simp] theorem challengeParameter_regular :
    OctetDecoder.Regular challengeParameter := by
  apply OctetDecoder.Regular.of_steady
  intro site
  apply (expectExactly_steady 16).bind
  intro _ _
  exact rest_steady.bind fun _ _ => .pure ⟨rfl, trivial⟩

@[simp] theorem challengeResponse_regular :
    OctetDecoder.Regular challengeResponse := by
  apply OctetDecoder.Regular.of_steady
  intro site
  apply remaining_steady.bind
  intro length _
  split
  · exact rest_steady.bind fun _ _ => .pure ⟨rfl, trivial⟩
  · exact fail_local _

theorem readCipheringDataSet_local :
    Local site (site.Reporting Value.IsPlain) readCipheringDataSet readCipheringDataSet := by
  apply (number_steady 2).bind
  intro identifier _
  apply (octets_steady 16).bind
  intro key _
  apply octet_steady.bind
  intro counterLength _
  apply (octets_steady _).bind
  intro counter _
  apply (number_steady 4).bind
  intro blocks _
  apply (vector_steady 5).bind
  intro time _
  apply (number_steady 2).bind
  intro duration _
  apply (number_steady 1).bind
  intro areaLength _
  apply (inner_local areaLength).bind
  intro near far sees
  have agree := readAreaLists_agree near.remaining sees
  rw [sees.moved.remaining_eq]
  refine .pure ⟨?_, ?_, agree.reported⟩
  · rw [agree.items_eq]
  · simpa using agree.plain

theorem dataSetComplaint_reported
    {near far : RecordRun (Value × List Diagnostic)}
    (agree : RecordRun.Agree site (site.Reporting Value.IsPlain) near far) :
    site.Reported (dataSetComplaint near) (dataSetComplaint far) := by
  simp only [dataSetComplaint, agree.fault_eq]
  split
  · exact .nil
  · exact .remaining agree.tail trivial

theorem countComplaint_reported
    {near far : Window}
    (declared found : Nat)
    (sees : site.Sees near far) :
    site.Reported
      (countComplaint declared found near.remainingSpan)
      (countComplaint declared found far.remainingSpan) := by
  simp only [countComplaint]
  split
  · exact .nil
  · exact .remaining sees trivial

@[simp] theorem cipheringKeyData_regular :
    OctetDecoder.Regular cipheringKeyData := by
  refine .reading fun site start farStart sees => ?_
  have front := octet_steady start farStart sees
  generalize octet start = nearOutcome, octet farStart = farOutcome at front ⊢
  cases front with
  | error =>
      exact .error
  | @ok header _ near far values behind =>
      obtain ⟨rfl, -⟩ := values
      have agree := Window.run_agree readCipheringDataSet_local near.remaining behind
      obtain ⟨same, plain, reported⟩ := Site.Reporting.together agree.records
      simp only [Bind.bind, Except.bind, Window.runAll, behind.moved.remaining_eq]
      refine .ok ⟨?_, ?_, ?_⟩ agree.after
      · rw [same]
      · simpa using plain
      · rw [same]
        refine (reported.append (dataSetComplaint_reported agree)).append ?_
        exact countComplaint_reported _ _ sees

end ElementValue

end LteNas
