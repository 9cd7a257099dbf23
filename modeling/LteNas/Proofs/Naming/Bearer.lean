import LteNas.ElementValue.Quality
import LteNas.ElementValue.Relay
import LteNas.ElementValue.Session
import LteNas.ElementValue.TrafficFlow
import LteNas.Proofs.Naming.Subscriber

namespace LteNas

/-!
# What is said about bearers

The decoders of session values, qualities of service, traffic flow templates and
relay values name the parts of their values with headings, and the words that
they choose are of one line.  Names of access points and addresses are texts.
-/

namespace ElementValue

open Reader Text

/-! ## Connecting -/

theorem sessionName_isUnbroken
    (code : UInt8) :
    IsUnbroken (Cause.sessionName code) := by
  unfold Cause.sessionName
  split <;> exact .of_characters rfl

@[simp] theorem sessionCause_obeys :
    OctetDecoder.Obeys sessionCause :=
  .of_yields (.after fun code => .pure (sessionName_isUnbroken code))

@[simp] theorem linkedBearer_obeys :
    NibbleDecoder.Obeys linkedBearer := by
  intro nibble
  rw [linkedBearer, Value.Obeys]
  split <;> exact .of_characters rfl

@[simp] theorem requestType_obeys :
    NibbleDecoder.Obeys requestType :=
  fun _ => codedBy_obeys (.cons rfl (.cons rfl (.cons rfl (.cons rfl (.cons rfl
    (.cons rfl .nil))))))

@[simp] theorem connectionKind_obeys :
    NibbleDecoder.Obeys connectionKind :=
  fun _ => codedBy_obeys
    (.cons rfl (.cons rfl (.cons rfl (.cons rfl (.cons rfl (.cons rfl (.cons rfl .nil)))))))

@[simp] theorem connectivityType_obeys :
    NibbleDecoder.Obeys connectivityType :=
  fun _ => codedBit_obeys (.cons rfl (.cons rfl .nil))

@[simp] theorem informationTransfer_obeys :
    NibbleDecoder.Obeys informationTransfer :=
  fun _ => codedBit_obeys (.cons rfl (.cons rfl .nil))

@[simp] theorem offloadAcceptability_obeys :
    NibbleDecoder.Obeys offloadAcceptability :=
  fun _ => FieldsObey.cons rfl trivial (.cons rfl trivial .nil)

@[simp] theorem controlPlaneOnly_obeys :
    NibbleDecoder.Obeys controlPlaneOnly :=
  fun _ => codedBit_obeys (.cons rfl (.cons rfl .nil))

@[simp] theorem releaseAssistance_obeys :
    NibbleDecoder.Obeys releaseAssistance :=
  fun _ => codedBy_obeys (.cons rfl (.cons rfl (.cons rfl (.cons rfl .nil))))

/-! ## Names and addresses -/

@[simp] theorem accessPointName_obeys :
    OctetDecoder.Obeys accessPointName :=
  .of_yields (.after fun _ => .pure trivial)

theorem readInterfaceIdentifier_yields :
    readInterfaceIdentifier.Yields (Field.Obeys .decoded) :=
  .after fun _ => .pure ⟨IsHeading.of_characters rfl, trivial⟩

theorem readDottedAddress_yields :
    readDottedAddress.Yields (Field.Obeys .decoded) :=
  .after fun _ => .pure ⟨IsHeading.of_characters rfl, trivial⟩

theorem readConnectionAddress_yields
    (kind : UInt8) :
    (readConnectionAddress kind).Yields (FieldsObey .decoded) := by
  rw [readConnectionAddress]
  split
  · exact .after fun _ => readDottedAddress_yields.bind fun _ obeys =>
      .pure (.prepend obeys .nil)
  · exact .after fun _ => readInterfaceIdentifier_yields.bind fun _ obeys =>
      .pure (.prepend obeys .nil)
  · refine .after fun _ => readInterfaceIdentifier_yields.bind fun identifier front => ?_
    exact readDottedAddress_yields.bind fun _ back =>
      .pure (.prepend front (.prepend back .nil))
  · exact .after fun _ => .pure (.optional fun _ => ⟨IsHeading.of_characters rfl, trivial⟩)

@[simp] theorem connectionAddress_obeys :
    OctetDecoder.Obeys connectionAddress := by
  apply OctetDecoder.Obeys.of_yields
  refine .after fun octet => (readConnectionAddress_yields _).bind fun addresses obey => .pure ?_
  exact FieldsObey.cons rfl (connectionKind_obeys octet) obey

/-! ## Protocol configuration options -/

theorem optionName_isUnbroken
    (identifier : Nat) :
    IsUnbroken (optionName identifier) := by
  unfold optionName
  split <;> exact .of_characters rfl

theorem readOption_yields :
    readOption.Yields (Value.Obeys .decoded) := by
  refine .after fun identifier => .after fun _ => .after fun content => .pure ?_
  exact FieldsObey.cons rfl (optionName_isUnbroken identifier) (.cons rfl trivial .nil)

@[simp] theorem configurationOptions_obeys :
    OctetDecoder.Obeys configurationOptions := by
  apply OctetDecoder.Obeys.of_yields
  refine .after fun octet => readOption_yields.every.bind fun options obey => .pure ?_
  have kind : (codedBy [(0, "PPP")] "Reserved" (octet &&& 0x07)).Obeys .decoded :=
    codedBy_obeys (.cons rfl (.cons rfl .nil))
  exact FieldsObey.cons rfl trivial
    (.cons rfl kind (.cons rfl (itemsObey_iff.mpr obey) .nil))

/-! ## Links to packet radio -/

@[simp] theorem linkAccessPoint_obeys :
    OctetDecoder.Obeys linkAccessPoint := by
  refine .of_yields (.after fun _ => .pure (codedBy_obeys ?_))
  exact .cons rfl (.cons rfl (.cons rfl (.cons rfl (.cons rfl (.cons rfl .nil)))))

@[simp] theorem packetFlow_obeys :
    OctetDecoder.Obeys packetFlow := by
  refine .of_yields (.after fun _ => .pure (codedBy_obeys ?_))
  exact .cons rfl (.cons rfl (.cons rfl (.cons rfl (.cons rfl (.cons rfl (.cons rfl
    (.cons rfl (.cons rfl .nil))))))))

@[simp] theorem radioPriority_obeys :
    NibbleDecoder.Obeys radioPriority :=
  fun _ => codedBy_obeys (.cons rfl (.cons rfl (.cons rfl (.cons rfl .nil))))

@[simp] theorem transaction_obeys :
    OctetDecoder.Obeys transaction := by
  refine .of_yields (.after fun octet => .after fun extension => .pure ?_)
  refine FieldsObey.cons rfl (codedBit_obeys ?_) (.cons rfl trivial ?_)
  · exact .cons rfl (.cons rfl .nil)
  · exact .optional fun _ => ⟨IsHeading.of_characters rfl, trivial⟩

/-! ## Notices and limits -/

@[simp] theorem notificationIndicator_obeys :
    OctetDecoder.Obeys notificationIndicator :=
  .of_yields (.after fun _ => .pure (codedBy_obeys (.cons rfl (.cons rfl .nil))))

@[simp] theorem reattemptIndicator_obeys :
    OctetDecoder.Obeys reattemptIndicator :=
  .of_yields (.after fun _ => .pure (FieldsObey.cons rfl trivial (.cons rfl trivial .nil)))

@[simp] theorem networkRateControl_obeys :
    OctetDecoder.Obeys networkRateControl := by
  refine .of_yields (.after fun rate => .pure ?_)
  split
  · exact IsUnbroken.of_characters rfl
  · trivial

/-! ## Header compression -/

theorem compressionProfiles_areHeadings :
    Headings compressionProfiles :=
  .cons rfl (.cons rfl (.cons rfl (.cons rfl (.cons rfl (.cons rfl (.cons rfl .nil))))))

theorem readCompressionSetup_yields :
    readCompressionSetup.Yields (FieldsObey .decoded) := by
  refine .after fun kind => ?_
  cases kind with
  | none =>
      exact .pure .nil
  | some kind =>
      exact .after fun _ => .pure (.cons rfl trivial (.cons rfl trivial .nil))

@[simp] theorem headerCompression_obeys :
    OctetDecoder.Obeys headerCompression := by
  apply OctetDecoder.Obeys.of_yields
  refine .after fun _ => .after fun profiles => .after fun contexts => ?_
  refine readCompressionSetup_yields.bind fun setup obeys => .pure ?_
  refine FieldsObey.append (fieldsObey_iff.mpr fun part member => ?_) (.cons rfl trivial obeys)
  obtain ⟨index, inside, rfl⟩ := List.mem_mapIdx.mp member
  exact ⟨compressionProfiles_areHeadings _ (List.getElem_mem inside), trivial⟩

/-! ## Qualities of service -/

theorem qualityClass_obeys
    (code : UInt8) :
    (qualityClass code).Obeys .decoded := by
  have standard : IsUnbroken "QCI " := .of_characters rfl
  have specific : IsUnbroken "Operator-specific QCI" := .of_characters rfl
  have reserved : IsUnbroken "Reserved" := .of_characters rfl
  rw [qualityClass, Value.Obeys, Rules.decoded_word]
  split
  · exact isUnbroken_append.mpr ⟨standard, isUnbroken_repr _⟩
  · split
    · exact specific
    · exact reserved

theorem qualityRateNames_areHeadings :
    Headings qualityRateNames :=
  .cons rfl (.cons rfl (.cons rfl (.cons rfl .nil)))

theorem qualityRates_obey
    (base extended further : List UInt8) :
    FieldsObey .decoded (qualityRates base extended further) := by
  rw [qualityRates, fieldsObey_iff]
  intro part member
  obtain ⟨⟨name, index⟩, pair, rfl⟩ := List.mem_map.mp member
  exact ⟨qualityRateNames_areHeadings name (List.of_mem_zip pair).1, trivial⟩

@[simp] theorem quality_obeys :
    OctetDecoder.Obeys quality := by
  apply OctetDecoder.Obeys.of_yields
  refine .after fun length => ?_
  split
  · refine .after fun code => .after fun base => .after fun extended => .after fun further => ?_
    refine .pure (FieldsObey.cons rfl (qualityClass_obeys code) ?_)
    split
    · exact .nil
    · exact qualityRates_obey base extended further
  · exact .fail

@[simp] theorem extendedQuality_obeys :
    OctetDecoder.Obeys extendedQuality := by
  apply OctetDecoder.Obeys.of_yields
  refine .after fun _ => .after fun _ => .after fun _ => .after fun _ => .after fun _ => ?_
  refine .after fun _ => .after fun _ => .pure ?_
  exact FieldsObey.cons rfl trivial (.cons rfl trivial (.cons rfl trivial
    (.cons rfl trivial .nil)))

@[simp] theorem aggregateRate_obeys :
    OctetDecoder.Obeys aggregateRate := by
  apply OctetDecoder.Obeys.of_yields
  refine .after fun length => ?_
  split
  · refine .after fun _ => .after fun _ => .after fun _ => .pure ?_
    exact FieldsObey.cons rfl trivial (.cons rfl trivial .nil)
  · exact .fail

@[simp] theorem extendedAggregateRate_obeys :
    OctetDecoder.Obeys extendedAggregateRate := by
  refine .of_yields (.after fun _ => .after fun _ => .after fun _ => .pure ?_)
  exact FieldsObey.cons rfl trivial (.cons rfl trivial .nil)

/-! ## Traffic flow templates -/

theorem filterKinds_unbroken :
    ∀ kind ∈ filterKinds.map Prod.snd, IsUnbroken kind.name := by
  have names : Unbroken ((filterKinds.map Prod.snd).map FilterKind.name) :=
    .cons rfl (.cons rfl (.cons rfl (.cons rfl (.cons rfl (.cons rfl (.cons rfl (.cons rfl
      (.cons rfl (.cons rfl (.cons rfl (.cons rfl (.cons rfl (.cons rfl .nil)))))))))))))
  intro kind member
  exact names kind.name (List.mem_map_of_mem member)

theorem filterContent_yields
    (content : FilterContent) :
    content.read.Yields (Value.Obeys .decoded) := by
  cases content with
  | flowLabel =>
      exact .after fun _ => .pure trivial
  | number width =>
      exact .after fun _ => .pure trivial
  | _ =>
      exact .after fun _ => .after fun _ => .pure trivial

theorem componentValue_obeys
    {code : Nat}
    {name : String}
    {content : Value}
    (unbroken : IsUnbroken name)
    (obeys : content.Obeys .decoded) :
    (componentValue code name content).Obeys .decoded :=
  FieldsObey.cons rfl unbroken (.cons rfl obeys .nil)

theorem readComponent_yields :
    readComponent.Yields (Value.Obeys .decoded) := by
  refine .after fun code => ?_
  cases found : filterKinds.lookup code with
  | none =>
      exact .after fun _ => .pure (componentValue_obeys (.of_characters rfl) trivial)
  | some kind =>
      obtain ⟨front, back, kinds_eq, -⟩ := List.lookup_eq_some_iff.mp found
      have unbroken : IsUnbroken kind.name := by
        apply filterKinds_unbroken
        rw [kinds_eq]
        simp
      exact (filterContent_yields kind.content).bind fun content obeys =>
        .pure (componentValue_obeys unbroken obeys)

theorem filterComponents_obey
    {content : Window}
    {components : List Value}
    (read : filterComponents content = .ok components) :
    ItemsObey .decoded components := by
  rw [filterComponents] at read
  cases outcome : every readComponent content with
  | error fault =>
      simp [outcome, Except.map] at read
  | ok result =>
      rw [outcome] at read
      cases read
      exact itemsObey_iff.mpr (readComponent_yields.every content _ _ outcome)

theorem readFilter_yields :
    readFilter.Yields (Value.Obeys .decoded) := by
  refine .after fun octet => .after fun precedence => .after fun _ => .after fun content => ?_
  cases read : filterComponents content with
  | error fault =>
      exact .fail
  | ok components =>
      refine .pure (FieldsObey.cons rfl (codedBy_obeys ?_) (.cons rfl trivial (.cons rfl trivial
        (.cons rfl (filterComponents_obey read) .nil))))
      exact .cons rfl (.cons rfl (.cons rfl (.cons rfl (.cons rfl .nil))))

theorem readFilterIdentifier_yields :
    readFilterIdentifier.Yields (Value.Obeys .decoded) :=
  .after fun _ => .pure (FieldsObey.cons rfl trivial .nil)

theorem filterReader_yields
    (operation : UInt8) :
    (filterReader operation).Yields (Value.Obeys .decoded) := by
  rw [filterReader]
  split
  · exact readFilterIdentifier_yields
  · exact readFilter_yields

theorem readFlowParameter_yields :
    readFlowParameter.Yields (Value.Obeys .decoded) := by
  refine .after fun kind => .after fun _ => .after fun content => .pure ?_
  refine FieldsObey.cons rfl (codedBy_obeys ?_) (.cons rfl trivial .nil)
  exact .cons rfl (.cons rfl (.cons rfl (.cons rfl .nil)))

theorem readFlowParameters_yields
    (announced : Bool) :
    (readFlowParameters announced).Yields FieldsReported := by
  rw [readFlowParameters]
  split
  · refine (readFlowParameter_yields.completeOnes (.of_characters rfl)).bind
      fun outcome ⟨parameters, reported⟩ => .pure ⟨?_, reported⟩
    exact .cons rfl (itemsObey_iff.mpr parameters) .nil
  · refine .after fun window => ?_
    split
    · exact .pure ⟨.nil, .nil⟩
    · exact .fail

theorem filterDiagnostics_obey
    {complaints : List Diagnostic}
    (reported : DiagnosticsObey complaints)
    (start : Window)
    (declared found : Nat) :
    DiagnosticsObey (filterDiagnostics start declared found complaints) := by
  rw [filterDiagnostics]
  split
  · exact .sole (DiagnosticKind.obeys_of_cites_nothing rfl) _
  · exact reported

@[simp] theorem trafficFlow_obeys :
    OctetDecoder.Obeys trafficFlow := by
  apply OctetDecoder.Obeys.of_reported
  refine .after fun start => .after fun octet => ?_
  refine ((filterReader_yields _).upTo (.of_characters rfl) _).bind
    fun filters ⟨filtersObey, filtersReported⟩ => ?_
  refine (readFlowParameters_yields _).bind fun parameters ⟨parametersObey, reported⟩ => ?_
  have operation :
      (codedBy flowOperations "Reserved" (octet >>> 5)).Obeys .decoded :=
    codedBy_obeys
      (.cons rfl (.cons rfl (.cons rfl (.cons rfl (.cons rfl (.cons rfl (.cons rfl
        (.cons rfl .nil))))))))
  refine .pure ⟨?_, (filterDiagnostics_obey filtersReported _ _ _).append reported⟩
  refine FieldsObey.append ?_ parametersObey
  exact .cons rfl operation (.cons rfl trivial (.cons rfl trivial
    (.cons rfl (itemsObey_iff.mpr filtersObey) .nil)))

/-! ## Relay values -/

theorem readUserIdentity_yields :
    readUserIdentity.Yields (Value.Obeys .decoded) := by
  refine .after fun _ => .after fun identity => ?_
  split
  · exact .fail
  · refine .pure (FieldsObey.cons rfl (codedBy_obeys ?_)
      (.cons rfl trivial (.cons rfl (dialledTextAfter_isUnbroken _ _) .nil)))
    exact .cons rfl (.cons rfl (.cons rfl (.cons rfl (.cons rfl (.cons rfl .nil)))))

theorem remoteAddressFields_obey
    {kind : String}
    (unbroken : IsUnbroken kind)
    (code : Nat)
    (address : Option String) :
    FieldsObey .decoded (remoteAddressFields kind code address) :=
  .cons rfl unbroken (.optional fun _ => ⟨IsHeading.of_characters rfl, trivial⟩)

theorem readRemoteAddress_yields :
    readRemoteAddress.Yields (FieldsObey .decoded) := by
  refine .after fun octet => ?_
  dsimp only
  split
  · exact .pure (remoteAddressFields_obey (.of_characters rfl) _ _)
  · exact .after fun _ => .pure (remoteAddressFields_obey (.of_characters rfl) _ _)
  · exact .after fun _ => .pure (remoteAddressFields_obey (.of_characters rfl) _ _)
  · exact .fail

theorem readRemoteTerminal_yields :
    readRemoteTerminal.Yields (Value.Obeys .decoded) := by
  refine .after fun count => (readUserIdentity_yields.times count).bind fun identities obey => ?_
  refine readRemoteAddress_yields.ifMore.bind fun address addressObeys => .pure ?_
  refine FieldsObey.cons rfl (itemsObey_iff.mpr obey) ?_
  cases address with
  | none =>
      exact .nil
  | some parts =>
      exact addressObeys parts rfl

theorem remoteTerminalValue_reported
    (window : Window) :
    Reported (remoteTerminalValue window) := by
  rw [remoteTerminalValue]
  split
  · rename_i read
    exact ⟨readRemoteTerminal_yields _ _ _ read, .nil⟩
  · exact ⟨trivial, .sole (Fault.malformed_obeys (.of_characters rfl) _) _⟩

theorem remoteCountComplaint_obeys
    (declared found : Nat)
    (leftOver : Bool)
    (span : Span) :
    DiagnosticsObey (remoteCountComplaint declared found leftOver span) := by
  rw [remoteCountComplaint]
  split
  · exact .sole (DiagnosticKind.obeys_of_cites_nothing rfl) span
  · exact .nil

@[simp] theorem remoteTerminals_obeys :
    OctetDecoder.Obeys remoteTerminals := by
  refine .of_reported (.of_start fun start front outcome after read => ?_)
  cases read
  obtain ⟨terminals, reported⟩ := reported_together
    (List.forall_mem_map.mpr fun window _ => remoteTerminalValue_reported window)
  refine ⟨itemsObey_iff.mpr terminals, reported.append ?_⟩
  split
  · exact complaint_obeys (.of_characters rfl) _
  · exact remoteCountComplaint_obeys _ _ _ _

@[simp] theorem keyServerAddress_obeys :
    OctetDecoder.Obeys keyServerAddress := by
  refine .of_yields (.after fun octet => ?_)
  dsimp only
  split
  · exact .after fun _ => .after fun _ => .pure
      (FieldsObey.cons rfl (IsUnbroken.of_characters rfl) (.cons rfl trivial .nil))
  · exact .after fun _ => .after fun _ => .pure
      (FieldsObey.cons rfl (IsUnbroken.of_characters rfl) (.cons rfl trivial .nil))
  · exact .fail

end ElementValue

end LteNas
