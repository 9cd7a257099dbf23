import LteNas.ElementValue.Security
import LteNas.Proofs.Element.Obeying

namespace LteNas

/-!
# What is said about subscribers

The decoders of containers, times, identities, areas and keys name the parts of
their values with headings, and their digits are digits.
-/

namespace ElementValue

open Reader Text

/-! ## Any message -/

@[simp] theorem uninterpreted_obeys :
    OctetDecoder.Obeys uninterpreted :=
  .of_yields (.after fun _ => .pure trivial)

@[simp] theorem handedTo_obeys
    (protocol : String) :
    OctetDecoder.Obeys (handedTo protocol) :=
  .of_yields (.after fun _ => .pure trivial)

@[simp] theorem unsigned_obeys :
    OctetDecoder.Obeys unsigned := by
  apply OctetDecoder.Obeys.of_yields
  apply Yields.after
  intro length
  split
  · exact .fail
  · exact .after fun _ => .pure trivial

@[simp] theorem spareHalf_obeys :
    NibbleDecoder.Obeys spareHalf :=
  fun _ => trivial

theorem bearerName_isHeading
    (bearer : Nat) :
    IsHeading (bearerName bearer) := by
  have front : IsHeading "EBI(" := .of_characters rfl
  have closing : IsUnbroken ")" := .of_characters rfl
  exact (front.append (isUnbroken_repr bearer)).append closing

theorem bearerFlags_obeys
    (first second : UInt8) :
    (bearerFlags first second).Obeys .decoded := by
  rw [bearerFlags, Value.Obeys, fieldsObey_iff]
  intro part member
  obtain ⟨bearer, -, rfl⟩ := List.mem_map.mp member
  split <;> exact ⟨bearerName_isHeading bearer, trivial⟩

theorem readBearerFlags_yields :
    readBearerFlags.Yields (Value.Obeys .decoded) :=
  .after fun _ => .after fun first => .after fun second => .pure (bearerFlags_obeys first second)

@[simp] theorem bearerStatus_obeys :
    OctetDecoder.Obeys bearerStatus :=
  .of_yields readBearerFlags_yields

/-! ## Containers -/

@[simp] theorem carriedMessage_obeys
    (carriage : Carriage) :
    OctetDecoder.Obeys (carriedMessage carriage) := by
  intro scope window nests
  rw [carriedMessage]
  split
  · rename_i found
    refine ⟨?_, .nil⟩
    rintro _ _ ⟨⟩
    exact nests _ _ _ _ found
  · refine ⟨?_, .sole (DiagnosticKind.obeys_of_cites_nothing rfl) _⟩
    rintro _ _ ⟨⟩
    trivial

@[simp] theorem replayedMessage_obeys :
    OctetDecoder.Obeys replayedMessage :=
  carriedMessage_obeys .complete

@[simp] theorem sessionMessage_obeys :
    OctetDecoder.Obeys sessionMessage := by
  intro scope window nests
  rw [sessionMessage]
  split
  · refine ⟨?_, .sole (DiagnosticKind.obeys_of_cites_nothing rfl) _⟩
    rintro _ _ ⟨⟩
    trivial
  · exact carriedMessage_obeys .bare scope window nests

@[simp] theorem genericContainerType_obeys :
    OctetDecoder.Obeys genericContainerType := by
  intro scope window _
  rw [genericContainerType]
  split
  · exact ⟨nofun, .nil⟩
  · refine ⟨?_, .nil⟩
    rintro _ _ ⟨⟩
    exact codedBy_obeys (.cons rfl (.cons rfl (.cons rfl .nil)))

@[simp] theorem genericContainer_obeys :
    OctetDecoder.Obeys genericContainer := by
  intro scope window nests
  rw [genericContainer]
  split
  · exact handedTo_obeys _ scope window nests
  · exact uninterpreted_obeys scope window nests

@[simp] theorem userData_obeys :
    OctetDecoder.Obeys userData := by
  intro scope window nests
  rw [userData]
  split
  · exact handedTo_obeys _ scope window nests
  · exact uninterpreted_obeys scope window nests

@[simp] theorem shortMessage_obeys :
    OctetDecoder.Obeys shortMessage :=
  handedTo_obeys _

@[simp] theorem classmark_obeys :
    OctetDecoder.Obeys classmark :=
  handedTo_obeys _

@[simp] theorem supportedCodecs_obeys :
    OctetDecoder.Obeys supportedCodecs :=
  handedTo_obeys _

@[simp] theorem packetQuality_obeys :
    OctetDecoder.Obeys packetQuality :=
  handedTo_obeys _

@[simp] theorem locationClient_obeys :
    OctetDecoder.Obeys locationClient :=
  handedTo_obeys _

@[simp] theorem flowMobility_obeys :
    OctetDecoder.Obeys flowMobility :=
  handedTo_obeys _

/-! ## Times -/

@[simp] theorem timer_obeys :
    OctetDecoder.Obeys timer :=
  .of_yields (.after fun _ => .pure trivial)

@[simp] theorem longTimer_obeys :
    OctetDecoder.Obeys longTimer :=
  .of_yields (.after fun _ => .pure trivial)

@[simp] theorem timeZone_obeys :
    OctetDecoder.Obeys timeZone :=
  .of_yields (.after fun _ => .pure trivial)

@[simp] theorem timeAndZone_obeys :
    OctetDecoder.Obeys timeAndZone :=
  .of_yields (.after fun _ => .after fun _ => .pure trivial)

@[simp] theorem daylightSaving_obeys :
    OctetDecoder.Obeys daylightSaving :=
  .of_yields (.after fun _ => .pure
    (codedBy_obeys (.cons rfl (.cons rfl (.cons rfl (.cons rfl .nil))))))

/-! ## Digits -/

theorem dialledCharacter_ne_lineFeed
    (nibble : UInt8) :
    DialledDigits.character nibble ≠ '\n' := by
  revert nibble
  exact octet_forall (by decide +kernel)

theorem dialledDigits_unbroken
    (octets : List UInt8) :
    '\n' ∉ DialledDigits.ofOctets octets := by
  intro member
  obtain ⟨nibble, -, character_eq⟩ := List.mem_map.mp member
  exact dialledCharacter_ne_lineFeed nibble character_eq

@[simp] theorem dialledText_isUnbroken
    (octets : List UInt8) :
    IsUnbroken (DialledDigits.text octets) :=
  isUnbroken_ofList.mpr (dialledDigits_unbroken octets)

@[simp] theorem dialledTextWith_isUnbroken
    (first : UInt8)
    (octets : List UInt8) :
    IsUnbroken (DialledDigits.textWith first octets) := by
  rw [DialledDigits.textWith, isUnbroken_ofList, List.mem_cons, not_or]
  exact ⟨(dialledCharacter_ne_lineFeed _).symm, dialledDigits_unbroken octets⟩

@[simp] theorem dialledTextAfter_isUnbroken
    (first : UInt8)
    (octets : List UInt8) :
    IsUnbroken (DialledDigits.textAfter first octets) := by
  rw [DialledDigits.textAfter, isUnbroken_ofList, List.mem_append, not_or]
  refine ⟨?_, dialledDigits_unbroken octets⟩
  split
  · exact List.not_mem_nil
  · rw [List.mem_singleton]
    exact (dialledCharacter_ne_lineFeed _).symm

/-! ## Identities -/

/-- Fields and the findings about them obey the rules. -/
def FieldsReported (outcome : List Field × List Diagnostic) : Prop :=
  FieldsObey .decoded outcome.1 ∧ DiagnosticsObey outcome.2

theorem readUnknownIdentity_yields
    (start : Window)
    (kind : UInt8) :
    (readUnknownIdentity start kind).Yields FieldsReported :=
  .after fun _ => .pure
    ⟨.cons rfl trivial .nil, .sole (DiagnosticKind.obeys_of_cites_nothing rfl) _⟩

theorem readMobileDigits_yields
    {characters : List Char}
    (heading : areHeading characters = true)
    (first : UInt8) :
    (readMobileDigits (String.ofList characters) first).Yields (FieldsObey .decoded) :=
  .after fun octets => .pure (.cons heading (dialledTextAfter_isUnbroken first octets) .nil)

theorem readMobileIdentityBody_yields
    (start : Window)
    (first : UInt8) :
    (readMobileIdentityBody start first).Yields FieldsReported := by
  rw [readMobileIdentityBody]
  split
  · exact .after fun _ => .pure ⟨.nil, .nil⟩
  · exact (readMobileDigits_yields rfl first).bind fun _ obeys => .pure ⟨obeys, .nil⟩
  · exact (readMobileDigits_yields rfl first).bind fun _ obeys => .pure ⟨obeys, .nil⟩
  · exact (readMobileDigits_yields rfl first).bind fun _ obeys => .pure ⟨obeys, .nil⟩
  · exact .after fun _ => .pure ⟨.cons rfl trivial .nil, .nil⟩
  · exact .after fun _ => .pure ⟨.cons rfl trivial .nil, .nil⟩
  · exact readUnknownIdentity_yields start _

theorem mobileIdentityKind_obeys
    (first : UInt8) :
    (codedBy mobileIdentityKinds "Reserved" (identityKind first)).Obeys .decoded :=
  codedBy_obeys
    (.cons rfl (.cons rfl (.cons rfl (.cons rfl (.cons rfl (.cons rfl (.cons rfl .nil)))))))

@[simp] theorem mobileIdentity_obeys :
    OctetDecoder.Obeys mobileIdentity := by
  refine .of_reported (.after fun start => .after fun first => ?_)
  refine (readMobileIdentityBody_yields start first).bind fun outcome ⟨obeys, reported⟩ => ?_
  exact .pure ⟨.cons rfl (mobileIdentityKind_obeys first) (.cons rfl trivial obeys), reported⟩

theorem readEpsDigits_yields
    {characters : List Char}
    (heading : areHeading characters = true)
    (first : UInt8) :
    (readEpsDigits (String.ofList characters) first).Yields (FieldsObey .decoded) :=
  .after fun octets => .pure (.cons heading (dialledTextWith_isUnbroken first octets) .nil)

theorem readTemporaryIdentity_yields :
    readTemporaryIdentity.Yields (FieldsObey .decoded) := by
  refine .after fun _ => .after fun _ => .after fun _ => .after fun _ => .after fun _ => ?_
  exact .pure (.cons rfl trivial (.cons rfl trivial (.cons rfl trivial (.cons rfl trivial .nil))))

theorem readEpsIdentityBody_yields
    (start : Window)
    (first : UInt8) :
    (readEpsIdentityBody start first).Yields FieldsReported := by
  rw [readEpsIdentityBody]
  split
  · exact (readEpsDigits_yields rfl first).bind fun _ obeys => .pure ⟨obeys, .nil⟩
  · exact (readEpsDigits_yields rfl first).bind fun _ obeys => .pure ⟨obeys, .nil⟩
  · exact readTemporaryIdentity_yields.bind fun _ obeys => .pure ⟨obeys, .nil⟩
  · exact readUnknownIdentity_yields start _

@[simp] theorem epsMobileIdentity_obeys :
    OctetDecoder.Obeys epsMobileIdentity := by
  refine .of_reported (.after fun start => .after fun first => ?_)
  refine (readEpsIdentityBody_yields start first).bind fun outcome ⟨obeys, reported⟩ => ?_
  have kind : (codedBy epsIdentityKinds "Reserved" (identityKind first)).Obeys .decoded :=
    codedBy_obeys (.cons rfl (.cons rfl (.cons rfl (.cons rfl .nil))))
  exact .pure ⟨.cons rfl kind (.cons rfl trivial obeys), reported⟩

@[simp] theorem requestedIdentity_obeys :
    NibbleDecoder.Obeys requestedIdentity :=
  fun _ => codedBy_obeys (.cons rfl (.cons rfl (.cons rfl (.cons rfl (.cons rfl .nil)))))

@[simp] theorem pagingIdentity_obeys :
    OctetDecoder.Obeys pagingIdentity :=
  .of_yields (.after fun _ => .pure (codedBit_obeys (.cons rfl (.cons rfl .nil))))

@[simp] theorem temporaryIdentitySignature_obeys :
    OctetDecoder.Obeys temporaryIdentitySignature :=
  .of_yields (.after fun _ => .pure trivial)

@[simp] theorem temporaryIdentityStatus_obeys :
    NibbleDecoder.Obeys temporaryIdentityStatus :=
  fun _ => codedBit_obeys (.cons rfl (.cons rfl .nil))

@[simp] theorem temporaryIdentityOrigin_obeys :
    NibbleDecoder.Obeys temporaryIdentityOrigin :=
  fun _ => codedBit_obeys (.cons rfl (.cons rfl .nil))

/-! ## Areas -/

@[simp] theorem locationArea_obeys :
    OctetDecoder.Obeys locationArea := by
  refine .of_yields (.after fun _ => .after fun _ => .after fun _ => .pure ?_)
  exact FieldsObey.cons rfl trivial (.cons rfl trivial .nil)

@[simp] theorem networkList_obeys :
    OctetDecoder.Obeys networkList := by
  apply OctetDecoder.Obeys.of_yields
  apply Yields.after
  intro length
  split
  · exact .fail
  · refine .after fun networks => .pure ?_
    simp

@[simp] theorem trackingArea_obeys :
    OctetDecoder.Obeys trackingArea :=
  .of_yields (.after fun _ => .after fun _ => .pure trivial)

theorem partialListValue_obeys
    (coding : AreaCoding)
    (declared : Nat)
    (areas : List TrackingArea) :
    (partialListValue coding declared areas).Obeys .decoded := by
  have coding_obeys : coding.value.Obeys .decoded := by
    cases coding <;> exact IsUnbroken.of_characters rfl
  have areas_obey : (Value.list (areas.map .trackingArea)).Obeys .decoded := by
    simp
  exact FieldsObey.cons rfl coding_obeys (.cons rfl trivial (.cons rfl areas_obey .nil))

theorem readAreaLists_obeys
    (limit : Nat)
    (window : Window) :
    (∀ item ∈ (readAreaLists limit window).items, item.Obeys .decoded) ∧
      DiagnosticsObey (readAreaLists limit window).diagnostics := by
  induction limit generalizing window with
  | zero =>
      exact ⟨nofun, .nil⟩
  | succ limit inductionHypothesis =>
      rw [readAreaLists]
      split
      · exact ⟨nofun, .nil⟩
      · dsimp only
        split
        · refine ⟨?_, .sole (DiagnosticKind.obeys_of_cites_nothing rfl) _⟩
          simp
        · split
          · refine ⟨nofun, .sole (DiagnosticKind.obeys_of_cites ?_ rfl) _⟩
            exact .of_characters rfl
          · rename_i header body _ _ coding _ _ areas after _
            have item := partialListValue_obeys coding (declaredAreas header) areas
            have others := inductionHypothesis after
            split
            · refine ⟨?_, .sole (DiagnosticKind.obeys_of_cites_nothing rfl) _⟩
              simpa using item
            · exact ⟨List.forall_mem_cons.mpr ⟨item, others.1⟩, others.2⟩

@[simp] theorem trackingAreaList_obeys :
    OctetDecoder.Obeys trackingAreaList := by
  apply OctetDecoder.Obeys.of_reported
  intro window outcome after read
  cases read
  obtain ⟨items, reported⟩ := readAreaLists_obeys window.remaining window
  exact ⟨by simpa using items, reported⟩

/-! ## Keys -/

@[simp] theorem keySetIdentifier_obeys :
    NibbleDecoder.Obeys keySetIdentifier := by
  intro nibble
  have context :
      (codedBit nibble 4 "Mapped security context" "Native security context").Obeys .decoded :=
    codedBit_obeys (.cons rfl (.cons rfl .nil))
  have identifier :
      (codedBy [(7, "No key is available")] "Key set identifier" (nibble &&& 0x07)).Obeys
        .decoded :=
    codedBy_obeys (.cons rfl (.cons rfl .nil))
  exact FieldsObey.cons rfl context (.cons rfl identifier .nil)

@[simp] theorem cipheringKeyNumber_obeys :
    NibbleDecoder.Obeys cipheringKeyNumber :=
  fun _ => codedBy_obeys (.cons rfl (.cons rfl .nil))

@[simp] theorem equipmentIdentityRequest_obeys :
    NibbleDecoder.Obeys equipmentIdentityRequest :=
  fun _ => codedBy_obeys (.cons rfl (.cons rfl (.cons rfl .nil)))

theorem epsCipheringNames_areHeadings :
    Headings epsCipheringNames :=
  .cons rfl (.cons rfl (.cons rfl (.cons rfl (.cons rfl (.cons rfl (.cons rfl (.cons rfl .nil)))))))

theorem epsIntegrityNames_areHeadings :
    Headings epsIntegrityNames :=
  .cons rfl (.cons rfl (.cons rfl (.cons rfl (.cons rfl (.cons rfl (.cons rfl (.cons rfl .nil)))))))

@[simp] theorem selectedAlgorithms_obeys :
    OctetDecoder.Obeys selectedAlgorithms := by
  refine .of_yields (.after fun octet => .pure ?_)
  refine FieldsObey.cons rfl ?_ (.cons rfl ?_ .nil)
  · exact epsCipheringNames_areHeadings.getD_isUnbroken _
  · exact epsIntegrityNames_areHeadings.getD_isUnbroken _

@[simp] theorem nonce_obeys :
    OctetDecoder.Obeys nonce :=
  .of_yields (.after fun _ => .pure trivial)

@[simp] theorem challengeParameter_obeys :
    OctetDecoder.Obeys challengeParameter :=
  .of_yields (.after fun _ => .after fun _ => .pure trivial)

@[simp] theorem challengeResponse_obeys :
    OctetDecoder.Obeys challengeResponse := by
  apply OctetDecoder.Obeys.of_yields
  apply Yields.after
  intro length
  split
  · exact .after fun _ => .pure trivial
  · exact .fail

theorem readCipheringDataSet_yields :
    readCipheringDataSet.Yields Reported := by
  refine .after fun identifier => .after fun key => .after fun counterLength => ?_
  refine .after fun counter => .after fun blocks => .after fun time => ?_
  refine .after fun duration => .after fun areaLength => .after fun areaWindow => ?_
  obtain ⟨items, reported⟩ := readAreaLists_obeys areaWindow.remaining areaWindow
  have areas : ItemsObey .decoded (readAreaLists areaWindow.remaining areaWindow).items :=
    itemsObey_iff.mpr items
  refine .pure ⟨?_, reported⟩
  exact FieldsObey.cons rfl trivial (.cons rfl trivial (.cons rfl trivial (.cons rfl trivial
    (.cons rfl trivial (.cons rfl trivial (.cons rfl areas .nil))))))

theorem dataSetComplaint_obeys
    (run : RecordRun (Value × List Diagnostic)) :
    DiagnosticsObey (dataSetComplaint run) := by
  rw [dataSetComplaint]
  split
  · exact .nil
  · exact .sole (Fault.malformed_obeys (.of_characters rfl) _) _

theorem countComplaint_obeys
    (declared found : Nat)
    (span : Span) :
    DiagnosticsObey (countComplaint declared found span) := by
  rw [countComplaint]
  split
  · exact .nil
  · exact .sole (DiagnosticKind.obeys_of_cites_nothing rfl) span

/-- Findings about values that obey the rules obey them together. -/
theorem reported_together
    {records : List (Value × List Diagnostic)}
    (reported : ∀ record ∈ records, Reported record) :
    (∀ value ∈ records.map Prod.fst, value.Obeys .decoded) ∧
      DiagnosticsObey (records.flatMap Prod.snd) := by
  constructor
  · intro value member
    obtain ⟨record, recordMember, rfl⟩ := List.mem_map.mp member
    exact (reported record recordMember).1
  · intro diagnostic member
    obtain ⟨record, recordMember, cited⟩ := List.mem_flatMap.mp member
    exact (reported record recordMember).2 diagnostic cited

@[simp] theorem cipheringKeyData_obeys :
    OctetDecoder.Obeys cipheringKeyData := by
  refine .of_reported (.of_start fun start front outcome after read => ?_)
  cases read
  obtain ⟨sets, reported⟩ := reported_together
    (run_records readCipheringDataSet_yields front.2.remaining front.2)
  refine ⟨itemsObey_iff.mpr sets, (reported.append ?_).append ?_⟩
  · exact dataSetComplaint_obeys _
  · exact countComplaint_obeys _ _ _

end ElementValue

end LteNas
