import LteNas.ElementValue.Call
import LteNas.ElementValue.NetworkName
import LteNas.ElementValue.Registration
import LteNas.Proofs.Naming.Subscriber

namespace LteNas

/-!
# What is said about terminals

The decoders of capabilities, registration values, calls and network names name
the parts of their values with headings, and the words that they choose are of
one line.
-/

namespace ElementValue

open Reader Text

/-! ## Records of flags -/

theorem umtsCipheringNames_areHeadings :
    Headings umtsCipheringNames :=
  .cons rfl (.cons rfl (.cons rfl (.cons rfl (.cons rfl (.cons rfl (.cons rfl
    (.cons rfl .nil)))))))

theorem umtsIntegrityNames_areHeadings :
    Headings umtsIntegrityNames :=
  .cons rfl (.cons rfl (.cons rfl (.cons rfl (.cons rfl (.cons rfl (.cons rfl
    (.cons rfl .nil)))))))

theorem packetCipheringNames_areHeadings :
    Headings packetCipheringNames :=
  .cons rfl (.cons rfl (.cons rfl (.cons rfl (.cons rfl (.cons rfl (.cons rfl
    (.cons rfl .nil)))))))

theorem flagRecord_obeys
    {characters : List Char}
    {names : List String}
    (heading : areHeading characters = true)
    (headings : Headings names)
    (octet : UInt8) :
    (flagRecord (String.ofList characters) names octet).Obeys .decoded :=
  ⟨.of_characters heading, flagFields_obey headings⟩

theorem sevenFlagRecord_obeys
    {characters : List Char}
    {names : List String}
    (heading : areHeading characters = true)
    (headings : Headings names)
    (octet : UInt8) :
    (sevenFlagRecord (String.ofList characters) names octet).Obeys .decoded := by
  refine ⟨.of_characters heading, fieldsObey_iff.mpr fun part member => ?_⟩
  exact fieldsObey_iff.mp (flagFields_obey headings) part (List.mem_of_mem_drop member)

theorem readEpsAlgorithms_yields :
    readEpsAlgorithms.Yields (FieldsObey .decoded) := by
  refine .after fun _ => .after fun ciphering => .after fun integrity => .pure ?_
  exact ⟨flagRecord_obeys rfl epsCipheringNames_areHeadings ciphering,
    flagRecord_obeys rfl epsIntegrityNames_areHeadings integrity, trivial⟩

theorem readRecord_yields
    {record : UInt8 → Field}
    (obeys : ∀ octet, (record octet).Obeys .decoded) :
    (readRecord record).Yields (FieldsObey .decoded) :=
  .after fun _ => .pure (.optional obeys)

theorem readFurther_yields
    {characters : List Char}
    (heading : areHeading characters = true) :
    (readFurther (String.ofList characters)).Yields (FieldsObey .decoded) :=
  .after fun _ => .pure (.optional fun _ => ⟨.of_characters heading, trivial⟩)

/-! ## Capabilities of a terminal -/

theorem terminalFeatureNames_areHeadings :
    Headings terminalFeatureNames :=
  .cons rfl (.cons rfl (.cons rfl (.cons rfl (.cons rfl (.cons rfl (.cons rfl
    (.cons rfl .nil)))))))

theorem thingFeatureNames_areHeadings :
    Headings thingFeatureNames :=
  .cons rfl (.cons rfl (.cons rfl (.cons rfl (.cons rfl (.cons rfl (.cons rfl
    (.cons rfl .nil)))))))

@[simp] theorem terminalNetworkCapability_obeys :
    OctetDecoder.Obeys terminalNetworkCapability := by
  apply OctetDecoder.Obeys.of_yields
  refine readEpsAlgorithms_yields.bind fun algorithms obey => ?_
  refine (readRecord_yields (flagRecord_obeys rfl umtsCipheringNames_areHeadings)).bind
    fun umtsCiphering cipheringObeys => ?_
  refine (readRecord_yields (flagRecord_obeys rfl umtsIntegrityNames_areHeadings)).bind
    fun umtsIntegrity integrityObeys => ?_
  refine (readRecord_yields (flagRecord_obeys rfl terminalFeatureNames_areHeadings)).bind
    fun features featuresObey => ?_
  refine (readRecord_yields (flagRecord_obeys rfl thingFeatureNames_areHeadings)).bind
    fun thingFeatures thingsObey => ?_
  refine (readFurther_yields rfl).bind fun further furtherObeys => .pure ?_
  exact ((((obey.append cipheringObeys).append integrityObeys).append featuresObey).append
    thingsObey).append furtherObeys

@[simp] theorem terminalSecurityCapability_obeys :
    OctetDecoder.Obeys terminalSecurityCapability := by
  apply OctetDecoder.Obeys.of_yields
  refine readEpsAlgorithms_yields.bind fun algorithms obey => ?_
  refine (readRecord_yields (flagRecord_obeys rfl umtsCipheringNames_areHeadings)).bind
    fun umtsCiphering cipheringObeys => ?_
  refine (readRecord_yields (sevenFlagRecord_obeys rfl umtsIntegrityNames_areHeadings)).bind
    fun umtsIntegrity integrityObeys => ?_
  refine (readRecord_yields (sevenFlagRecord_obeys rfl packetCipheringNames_areHeadings)).bind
    fun packetCiphering packetObeys => ?_
  refine .after fun more => ?_
  cases more with
  | true =>
      exact .after fun _ => .fail
  | false =>
      exact .pure (((obey.append cipheringObeys).append integrityObeys).append packetObeys)

@[simp] theorem packetNetworkCapability_obeys :
    OctetDecoder.Obeys packetNetworkCapability := by
  apply OctetDecoder.Obeys.of_yields
  refine .after fun octet => (readFurther_yields rfl).bind fun further obey => .pure ?_
  refine ((flagFields_obey ?_).append ?_).append obey
  · exact .cons rfl (.cons rfl (.cons rfl (.cons rfl .nil)))
  · exact .cons rfl trivial (.cons rfl trivial (.cons rfl trivial .nil))

@[simp] theorem terminalFeature_obeys :
    NibbleDecoder.Obeys terminalFeature :=
  fun _ => FieldsObey.cons rfl trivial .nil

@[simp] theorem deviceProperties_obeys :
    NibbleDecoder.Obeys deviceProperties :=
  fun _ => codedBit_obeys (.cons rfl (.cons rfl .nil))

@[simp] theorem radioCapabilityUpdate_obeys :
    NibbleDecoder.Obeys radioCapabilityUpdate :=
  fun _ => codedBit_obeys (.cons rfl (.cons rfl .nil))

@[simp] theorem voicePreference_obeys :
    OctetDecoder.Obeys voicePreference := by
  refine .of_yields (.after fun _ => .pure ?_)
  refine FieldsObey.cons rfl (codedBit_obeys ?_) (.cons rfl (codedBy_obeys ?_) .nil)
  · exact .cons rfl (.cons rfl .nil)
  · exact .cons rfl (.cons rfl (.cons rfl (.cons rfl (.cons rfl .nil))))

@[simp] theorem discontinuousReception_obeys :
    OctetDecoder.Obeys discontinuousReception := by
  refine .of_yields (.after fun _ => .after fun _ => .after fun octet => .pure ?_)
  have cycle :
      (codedBy receptionCycles "DRX value not specified by the MS" (highNibble octet)).Obeys
        .decoded :=
    codedBy_obeys (.cons rfl (.cons rfl (.cons rfl (.cons rfl (.cons rfl .nil)))))
  exact FieldsObey.cons rfl trivial (.cons rfl cycle (.cons rfl trivial (.cons rfl trivial .nil)))

@[simp] theorem extendedReception_obeys :
    OctetDecoder.Obeys extendedReception := by
  apply OctetDecoder.Obeys.of_yields
  refine .after fun octet => (readFurther_yields rfl).bind fun further obey => .pure ?_
  exact FieldsObey.append (.cons rfl trivial (.cons rfl trivial .nil)) obey

/-! ## Capabilities of a network -/

theorem networkFeatureNames_areHeadings :
    Headings networkFeatureNames :=
  .cons rfl (.cons rfl (.cons rfl (.cons rfl (.cons rfl (.cons rfl (.cons rfl
    (.cons rfl .nil)))))))

@[simp] theorem networkFeatures_obeys :
    OctetDecoder.Obeys networkFeatures := by
  refine .of_yields (.after fun octet => .after fun second => .pure ?_)
  refine ((flagFields_obey ?_).append ?_).append ?_
  · exact .cons rfl (.cons rfl (.cons rfl .nil))
  · exact .cons rfl trivial (.cons rfl trivial (.cons rfl trivial (.cons rfl trivial .nil)))
  · cases second with
    | none =>
        exact .nil
    | some octet =>
        exact flagFields_obey networkFeatureNames_areHeadings

/-! ## Registration -/

theorem mobilityName_isUnbroken
    (code : UInt8) :
    IsUnbroken (Cause.mobilityName code) := by
  unfold Cause.mobilityName
  split <;> exact .of_characters rfl

@[simp] theorem mobilityCause_obeys :
    OctetDecoder.Obeys mobilityCause :=
  .of_yields (.after fun code => .pure (mobilityName_isUnbroken code))

@[simp] theorem extendedMobilityCause_obeys :
    NibbleDecoder.Obeys extendedMobilityCause :=
  fun _ => FieldsObey.cons rfl trivial (.cons rfl trivial (.cons rfl trivial .nil))

@[simp] theorem attachType_obeys :
    NibbleDecoder.Obeys attachType :=
  fun _ => codedBy_obeys (.cons rfl (.cons rfl (.cons rfl (.cons rfl (.cons rfl .nil)))))

@[simp] theorem attachResult_obeys :
    NibbleDecoder.Obeys attachResult :=
  fun _ => codedBy_obeys (.cons rfl (.cons rfl (.cons rfl .nil)))

@[simp] theorem updateType_obeys :
    NibbleDecoder.Obeys updateType := by
  intro nibble
  refine FieldsObey.cons rfl (codedBit_obeys ?_) (.cons rfl (codedBy_obeys ?_) .nil)
  · exact .cons rfl (.cons rfl .nil)
  · exact .cons rfl (.cons rfl (.cons rfl (.cons rfl (.cons rfl .nil))))

@[simp] theorem updateResult_obeys :
    NibbleDecoder.Obeys updateResult :=
  fun _ => codedBy_obeys (.cons rfl (.cons rfl (.cons rfl (.cons rfl (.cons rfl .nil)))))

@[simp] theorem additionalUpdateType_obeys :
    NibbleDecoder.Obeys additionalUpdateType := by
  intro nibble
  refine FieldsObey.cons rfl trivial (.cons rfl (codedBy_obeys ?_)
    (.cons rfl (codedBit_obeys ?_) .nil))
  · exact .cons rfl (.cons rfl (.cons rfl (.cons rfl .nil)))
  · exact .cons rfl (.cons rfl .nil)

@[simp] theorem additionalUpdateResult_obeys :
    NibbleDecoder.Obeys additionalUpdateResult :=
  fun _ => codedBy_obeys (.cons rfl (.cons rfl (.cons rfl (.cons rfl .nil))))

theorem detachType_obeys
    {kinds : List (Nat × String)}
    (meanings : Unbroken ("Combined EPS/IMSI detach" :: kinds.map Prod.snd)) :
    NibbleDecoder.Obeys (detachType kinds) := by
  intro nibble
  refine FieldsObey.cons rfl (codedBit_obeys ?_) (.cons rfl (codedBy_obeys meanings) .nil)
  exact .cons rfl (.cons rfl .nil)

@[simp] theorem uplinkDetachType_obeys :
    NibbleDecoder.Obeys uplinkDetachType :=
  detachType_obeys (.cons rfl (.cons rfl (.cons rfl (.cons rfl .nil))))

@[simp] theorem downlinkDetachType_obeys :
    NibbleDecoder.Obeys downlinkDetachType :=
  detachType_obeys (.cons rfl (.cons rfl (.cons rfl (.cons rfl (.cons rfl (.cons rfl .nil))))))

@[simp] theorem serviceType_obeys :
    NibbleDecoder.Obeys serviceType :=
  fun _ => codedBy_obeys
    (.cons rfl (.cons rfl (.cons rfl (.cons rfl (.cons rfl (.cons rfl (.cons rfl (.cons rfl
      (.cons rfl (.cons rfl .nil))))))))))

@[simp] theorem controlPlaneServiceType_obeys :
    NibbleDecoder.Obeys controlPlaneServiceType := by
  intro nibble
  refine FieldsObey.cons rfl trivial (.cons rfl (codedBy_obeys ?_) .nil)
  exact .cons rfl (.cons rfl (.cons rfl .nil))

@[simp] theorem fallbackResponse_obeys :
    NibbleDecoder.Obeys fallbackResponse :=
  fun _ => codedBy_obeys (.cons rfl (.cons rfl (.cons rfl .nil)))

@[simp] theorem shortMessageStatus_obeys :
    NibbleDecoder.Obeys shortMessageStatus :=
  fun _ => codedBy_obeys (.cons rfl (.cons rfl (.cons rfl (.cons rfl (.cons rfl .nil)))))

@[simp] theorem redirectionPolicy_obeys :
    NibbleDecoder.Obeys redirectionPolicy :=
  fun _ => codedBit_obeys (.cons rfl (.cons rfl .nil))

theorem readPagedBearers_yields
    (kind : UInt8) :
    (readPagedBearers kind).Yields (FieldsObey .decoded) := by
  rw [readPagedBearers]
  split
  · exact readBearerFlags_yields.bind fun _ obeys => .pure (.cons rfl obeys .nil)
  · exact .pure .nil

@[simp] theorem pagingRestriction_obeys :
    OctetDecoder.Obeys pagingRestriction := by
  apply OctetDecoder.Obeys.of_yields
  refine .after fun octet => (readPagedBearers_yields _).bind fun bearers obey => .pure ?_
  refine FieldsObey.cons rfl (codedBy_obeys ?_) obey
  exact .cons rfl (.cons rfl (.cons rfl (.cons rfl (.cons rfl .nil))))

/-! ## Calls -/

theorem readEmergencyNumber_yields :
    readEmergencyNumber.Yields (Value.Obeys .decoded) := by
  refine .after fun length => ?_
  split
  · exact .fail
  · refine .after fun record => .pure ?_
    have category : (emergencyCategory (record.peek?.getD 0)).Obeys .decoded :=
      FieldsObey.cons rfl trivial (.cons rfl trivial (.cons rfl trivial (.cons rfl trivial
        (.cons rfl trivial .nil))))
    exact FieldsObey.cons rfl category (.cons rfl (dialledText_isUnbroken _) .nil)

@[simp] theorem emergencyNumbers_obeys :
    OctetDecoder.Obeys emergencyNumbers := by
  apply OctetDecoder.Obeys.of_reported
  refine (readEmergencyNumber_yields.completeOnes (.of_characters rfl)).bind
    fun outcome ⟨numbers, reported⟩ => .pure ?_
  exact ⟨itemsObey_iff.mpr numbers, reported⟩

theorem readExtendedEmergencyNumber_yields :
    readExtendedEmergencyNumber.Yields (Value.Obeys .decoded) := by
  refine .after fun _ => .after fun number => .after fun _ => .after fun service => .pure ?_
  exact FieldsObey.cons rfl (dialledText_isUnbroken number) (.cons rfl trivial .nil)

@[simp] theorem extendedEmergencyNumbers_obeys :
    OctetDecoder.Obeys extendedEmergencyNumbers := by
  apply OctetDecoder.Obeys.of_reported
  refine .after fun octet => ?_
  refine (readExtendedEmergencyNumber_yields.completeOnes (.of_characters rfl)).bind
    fun outcome ⟨numbers, reported⟩ => .pure ⟨?_, reported⟩
  refine FieldsObey.cons rfl (codedBit_obeys ?_) (.cons rfl (itemsObey_iff.mpr numbers) .nil)
  exact .cons rfl (.cons rfl .nil)

theorem readPresentation_yields
    (first : UInt8) :
    (readPresentation first).Yields (FieldsObey .decoded) := by
  rw [readPresentation]
  split
  · exact .pure .nil
  · exact .after fun _ => .pure (.cons rfl trivial (.cons rfl trivial .nil))

@[simp] theorem callingLine_obeys :
    OctetDecoder.Obeys callingLine := by
  apply OctetDecoder.Obeys.of_yields
  refine .after fun octet => (readPresentation_yields octet).bind fun presentation obeys => ?_
  refine .after fun number => .pure ?_
  refine FieldsObey.append (.append (.cons rfl trivial (.cons rfl trivial .nil)) obeys) ?_
  exact .cons rfl (dialledText_isUnbroken number) .nil

@[simp] theorem locationIndicator_obeys :
    OctetDecoder.Obeys locationIndicator :=
  .of_yields (.after fun _ => .pure (codedBy_obeys (.cons rfl (.cons rfl .nil))))

/-! ## Names of networks -/

theorem nameCoding_obeys
    (coding : NameCoding) :
    coding.value.Obeys .decoded := by
  cases coding <;> exact IsUnbroken.of_characters rfl

@[simp] theorem networkName_obeys :
    OctetDecoder.Obeys networkName := by
  refine .of_yields (.after fun octet => .after fun octets => ?_)
  dsimp only
  split
  · exact .fail
  · rename_i coding _
    exact .pure (FieldsObey.cons rfl (nameCoding_obeys coding)
      (.cons rfl trivial (.cons rfl trivial .nil)))

end ElementValue

end LteNas
