import LteNas.Proofs.Decode.Nesting
import LteNas.Proofs.Element.UserData

namespace LteNas

/-!
# What the settings on user data decide

The settings on user data choose the protocol that its octets are handed to.
Two runs that differ in them open every message in the same way, at every depth,
and find the same but for that protocol.
-/

/-! ## The catalogues of the messages -/

/-- Only the transport of data has a container of user data. -/
theorem mobilityCatalogues_haveNoUserData
    (message : MobilityMessage) :
    ∀ catalogue ∈ message.body.catalogues, ∀ entry ∈ catalogue,
      entry.label ≠ "User data container" ∧
        OctetDecoder.consultsUserData entry.decoder.decodeOctets = false := by
  cases message <;> decide

theorem sessionCatalogues_haveNoUserData
    (message : SessionMessage)
    (other : message ≠ .esmDataTransport) :
    ∀ catalogue ∈ message.body.catalogues, ∀ entry ∈ catalogue,
      entry.label ≠ "User data container" ∧
        OctetDecoder.consultsUserData entry.decoder.decodeOctets = false := by
  cases message <;> first | exact absurd rfl other | decide

theorem Catalogue.handsUserData_of_none
    {catalogue : Catalogue}
    (none : ∀ entry ∈ catalogue,
      entry.label ≠ "User data container" ∧
        OctetDecoder.consultsUserData entry.decoder.decodeOctets = false) :
    catalogue.HandsUserData := by
  intro entry member
  obtain ⟨notData, notConsulted⟩ := none entry member
  refine ⟨fun consults => ?_, fun isData => (notData isData).elim⟩
  rw [notConsulted] at consults
  cases consults

theorem Catalogue.dataTransport_handsUserData :
    Catalogue.dataTransport.HandsUserData := by
  intro entry member
  simp only [dataTransport, List.mem_cons, List.not_mem_nil, or_false] at member
  rcases member with rfl | rfl
  · exact ⟨fun _ => rfl, fun _ => ⟨rfl, rfl⟩⟩
  · exact ⟨fun consults => absurd consults (by decide), fun isData => absurd isData (by decide)⟩

theorem Catalogue.IsShipped.handsUserData
    {catalogue : Catalogue}
    (shipped : catalogue.IsShipped) :
    catalogue.HandsUserData := by
  rcases shipped with ⟨message, member⟩ | ⟨message, member⟩
  · exact handsUserData_of_none (mobilityCatalogues_haveNoUserData message catalogue member)
  · by_cases other : message = .esmDataTransport
    · subst other
      obtain rfl := List.mem_singleton.mp member
      exact dataTransport_handsUserData
    · exact handsUserData_of_none
        (sessionCatalogues_haveNoUserData message other catalogue member)

/-- An element that belongs to no catalogue is no user data. -/
theorem Element.IsUncatalogued.not_isUserData
    {element : Element}
    (uncatalogued : element.IsUncatalogued) :
    ¬ element.IsUserData := by
  cases uncatalogued with
  | plain label_mem _ =>
      intro isData
      have label_eq : element.label = "User data container" := isData
      rw [label_eq] at label_mem
      exact absurd label_mem (by decide)
  | ciphered _ label_eq _ =>
      rw [Element.IsUserData, label_eq]
      decide

/-! ## Openings -/

namespace Opening

variable {opening : Opening} {least : Nat} {window : Window}

/-- An opening comes to the same in scopes that differ in user data, once that is bare. -/
theorem finish_withBareData
    {near far : Scope}
    (fits : opening.Fits least window)
    (alike : near.AlikeBesideData far)
    (direction_eq : far.direction = near.direction) :
    (opening.finish far).withBareData = (opening.finish near).withBareData := by
  cases opening with
  | closed message =>
      rfl
  | body layout header behind =>
      have entriesShipped := fits.1.entries_isShipped near.direction behind
      have same :
          (layout.body.walk near behind).SameBesideData (layout.body.walk far behind) := by
        rw [MessageBody.walk, MessageBody.walk, direction_eq]
        exact Catalogue.walk_sameBesideData entriesShipped.regular entriesShipped.handsUserData
          alike behind
      simp only [finish, Scope.decodeBody, Message.withBareData_eq, same.elements_eq,
        same.diagnostics_eq]

/-- The user data of an opened message is the octets of its element behind the length. -/
theorem finish_userData
    {element : Element}
    {scope : Scope}
    (fits : opening.Fits least window)
    (member : element ∈ (opening.finish scope).elements)
    (isData : element.IsUserData) :
    let content := window.portion element.contentSpan
    content.remainingSpan = element.contentSpan ∧
      element.value = scope.config.userDataValue content.rest := by
  cases opening with
  | closed message =>
      exact ((fits.uncatalogued element member).not_isUserData isData).elim
  | body layout header behind =>
      obtain ⟨shipped, -, count, -, inside, rfl⟩ := fits
      have entriesShipped :=
        shipped.entries_isShipped scope.direction (window.advance count)
      obtain ⟨start_le, span_eq, value_eq⟩ :=
        Catalogue.walk_userData entriesShipped.handsUserData member isData
      have portion_eq :
          (window.advance count).portion element.contentSpan =
            window.portion element.contentSpan :=
        Window.Reaches.portion_eq ⟨count, inside, rfl⟩ start_le
      rw [portion_eq] at span_eq value_eq
      exact ⟨span_eq, value_eq⟩

end Opening

/-! ## From level to level -/

/-- The setups agree in what decides how a message is opened. -/
structure Setup.OpensAlike (near far : Setup) : Prop where
  dissectPlain_eq : far.config.dissectPlain = near.config.dissectPlain
  nullDecipher_eq : far.config.nullDecipher = near.config.nullDecipher
  key_eq : far.key = near.key
  direction_eq : far.direction = near.direction

namespace Setup

variable {near far : Setup} {depth : Nat} {carriage : Carriage} {window : Window}

theorem OpensAlike.payloadCipher_eq
    (alike : near.OpensAlike far)
    (depth : Nat)
    (envelope : Envelope) :
    (far.scope depth).payloadCipher envelope = (near.scope 0).payloadCipher envelope := by
  simp only [Scope.payloadCipher, scope, freshScope, alike.key_eq, alike.nullDecipher_eq,
    alike.direction_eq]

/-- A ciphered payload comes to one opening in the scopes that decipher it in one way. -/
theorem decodeCiphered_opens_alike
    {envelope : Envelope}
    {message : Message}
    (near : Setup)
    (ciphered : envelope.kind.isCiphered = true)
    (blank : message.IsBlank)
    (window : Window) :
    ∃ opening : Opening,
      opening.Fits 2 (near.deciphered envelope window) ∧
        ∀ scope : Scope,
          scope.payloadCipher envelope = (near.scope 0).payloadCipher envelope →
            (scope.decodeCiphered envelope message window).1 = opening.finish scope := by
  rw [deciphered, if_pos ciphered]
  cases found : ((near.scope 0).payloadCipher envelope).decipher? window.rest with
  | none =>
      have shown :
          (message.append "Ciphered message" window.remainingSpan
            (.ciphered window.rest)).IsFlat :=
        .append (.blank blank) (.ciphered window.rest rfl rfl)
      have flat := shown.report .decipherFailed window.remainingSpan (by simp)
      refine ⟨.closed _, flat, fun scope cipher_eq => ?_⟩
      simp only [Scope.decodeCiphered, cipher_eq, found, Opening.finish]
  | some plain =>
      obtain ⟨opening, fits, decode_eq⟩ :=
        Scope.decodePlain_opens blank (Window.ofOctets plain window.position)
      refine ⟨opening, fits, fun scope cipher_eq => ?_⟩
      simp only [Scope.decodeCiphered, cipher_eq, found]
      exact decode_eq scope

/-- A message comes to the same opening in setups that open alike. -/
theorem decodeAt_opens_alike
    (near : Setup)
    (depth : Nat)
    (carriage : Carriage)
    (window : Window) :
    ∃ (opening : Opening) (isPartial : Bool),
      opening.Fits 2 (near.readable carriage window) ∧
        ∀ far : Setup, near.OpensAlike far →
          far.decodeAt depth carriage window =
            opening.finish { far.scope depth with partiallyCiphered := isPartial } := by
  cases carriage with
  | bare =>
      obtain ⟨opening, fits, decode_eq⟩ :=
        Scope.decodePlain_opens Message.empty_isBlank window
      exact ⟨opening, false, fits, fun far _ => decode_eq _⟩
  | complete =>
      cases read : Envelope.read near.config.dissectPlain window with
      | error fault =>
          refine ⟨.closed _, false, Message.unopened_isFlat window fault, fun far alike => ?_⟩
          rw [← alike.dissectPlain_eq] at read
          exact Scope.decodeMessage_of_error read
      | ok outer =>
          obtain ⟨envelope, after⟩ := outer
          let message : Message :=
            { Message.empty with
              envelope := some envelope
              discriminator := some envelope.discriminator }
          have blank : message.IsBlank :=
            ⟨rfl, rfl⟩
          have payload_eq (far : Setup) (alike : near.OpensAlike far) :
              far.decodeAt depth .complete window =
                ((far.scope depth).decodePayload envelope message after).1 := by
            rw [← alike.dissectPlain_eq] at read
            rw [decodeAt, Scope.decodeCarried, Scope.decodeMessage_of_ok read]
          have readable_eq : near.readable .complete window = near.deciphered envelope after := by
            rw [readable, read]
          rw [readable_eq]
          cases ciphered : envelope.kind.isCiphered with
          | true =>
              obtain ⟨opening, fits, decode_eq⟩ :=
                near.decodeCiphered_opens_alike ciphered blank after
              refine ⟨opening, false, fits, fun far alike => ?_⟩
              rw [payload_eq far alike, Scope.decodePayload_of_ciphered ciphered]
              exact decode_eq _ (alike.payloadCipher_eq depth envelope)
          | false =>
              obtain ⟨opening, isPartial, fits, decode_eq⟩ :=
                Scope.decodePayload_opens ciphered blank after
              rw [deciphered_of_not_ciphered ciphered]
              refine ⟨opening, isPartial, fits, fun far alike => ?_⟩
              rw [payload_eq far alike]
              exact decode_eq _ rfl

/-- The setup with other settings on user data. -/
def handing (setup : Setup) (userData : UserData) (nonIpProtocol : String) : Setup :=
  { setup with config := { setup.config with userData, nonIpProtocol } }

variable {setup : Setup} {userData : UserData} {nonIpProtocol : String}

/-- At a depth the scopes are alike if messages one level deeper are the same, once user data is bare. -/
theorem scope_alikeBesideData_of_deeper
    (deeper : depth < setup.config.maxNestingDepth → ∀ carriage window,
      ((setup.handing userData nonIpProtocol).decodeAt
          (depth + 1) carriage window).withBareData =
        (setup.decodeAt (depth + 1) carriage window).withBareData) :
    (setup.scope depth).AlikeBesideData
      ((setup.handing userData nonIpProtocol).scope depth) where
  partiallyCiphered_eq := rfl
  containerType_eq := rfl
  limit_eq := rfl
  nested carriage window := by
    rw [scope_nested, scope_nested]
    by_cases below : depth < setup.config.maxNestingDepth
    · have farBelow : depth < (setup.handing userData nonIpProtocol).config.maxNestingDepth :=
        below
      rw [if_pos below, if_pos farBelow]
      exact .some (deeper below carriage window)
    · have farReached :
          ¬ depth < (setup.handing userData nonIpProtocol).config.maxNestingDepth :=
        below
      rw [if_neg below, if_neg farReached]
      exact .none

theorem decodeAt_withBareData_of_deeper
    (deeper : depth < setup.config.maxNestingDepth → ∀ carriage window,
      ((setup.handing userData nonIpProtocol).decodeAt
          (depth + 1) carriage window).withBareData =
        (setup.decodeAt (depth + 1) carriage window).withBareData) :
    ((setup.handing userData nonIpProtocol).decodeAt depth carriage window).withBareData =
      (setup.decodeAt depth carriage window).withBareData := by
  obtain ⟨opening, isPartial, fits, decode_eq⟩ :=
    setup.decodeAt_opens_alike depth carriage window
  rw [decode_eq setup ⟨rfl, rfl, rfl, rfl⟩,
    decode_eq (setup.handing userData nonIpProtocol) ⟨rfl, rfl, rfl, rfl⟩]
  have alike := scope_alikeBesideData_of_deeper deeper
  exact Opening.finish_withBareData fits ⟨rfl, rfl, rfl, alike.nested⟩ rfl

/-- A message at a depth is the same under other settings on user data, once that is bare. -/
theorem decodeAt_withBareData
    (setup : Setup)
    (userData : UserData)
    (nonIpProtocol : String)
    (depth : Nat)
    (carriage : Carriage)
    (window : Window) :
    ((setup.handing userData nonIpProtocol).decodeAt depth carriage window).withBareData =
      (setup.decodeAt depth carriage window).withBareData := by
  -- the induction is on the levels that may still be entered
  induction levels_eq : setup.config.maxNestingDepth - depth
    generalizing depth carriage window with
  | zero =>
      refine decodeAt_withBareData_of_deeper fun below => ?_
      exact absurd levels_eq (Nat.sub_ne_zero_of_lt below)
  | succ levels inductionHypothesis =>
      refine decodeAt_withBareData_of_deeper fun _ carriage window => ?_
      exact inductionHypothesis (depth + 1) carriage window (by omega)

/-- User data at a depth is the octets of its element behind the length. -/
theorem decodeAt_userData
    {element : Element}
    (member : element ∈ (setup.decodeAt depth carriage window).elements)
    (isData : element.IsUserData) :
    let content := (setup.readable carriage window).portion element.contentSpan
    content.remainingSpan = element.contentSpan ∧
      element.value = setup.config.userDataValue content.rest := by
  obtain ⟨opening, isPartial, fits, decode_eq⟩ :=
    setup.decodeAt_opens_alike depth carriage window
  rw [decode_eq setup ⟨rfl, rfl, rfl, rfl⟩] at member
  exact Opening.finish_userData fits member isData

end Setup

/--
The settings on user data only choose the protocol that it is handed to.  Runs
that differ in nothing else come to the same, once user data is bare at every
depth; and in each of them user data is the octets of its container, as they are
or handed to a protocol.
-/
theorem decode_labelsUserData
    (octets : List UInt8)
    (direction : Direction)
    (config : Config)
    (userData : UserData)
    (nonIpProtocol : String) :
    let other : Config := { config with userData, nonIpProtocol }
    (decode octets direction other).withBareData =
        (decode octets direction config).withBareData ∧
      ∀ settings ∈ [config, other],
        let setup := Setup.ofConfig settings direction
        ∀ depth inner, (decode octets direction settings).HoldsAt depth inner →
          ∃ carriage window,
            setup.Enters octets depth carriage window ∧
              inner = setup.decodeAt depth carriage window ∧
              ∀ element ∈ inner.elements, element.label = "User data container" →
                let content := (setup.readable carriage window).portion element.contentSpan
                content.remainingSpan = element.contentSpan ∧
                  (element.value = .octets content.rest ∨
                    ∃ protocol, element.value = .handoff protocol content.rest) := by
  intro other
  refine ⟨(Setup.ofConfig config direction).decodeAt_withBareData userData nonIpProtocol
    0 .complete (.ofOctets octets 0), fun settings _ => ?_⟩
  intro setup depth inner holds
  obtain ⟨carriage, window, enters, rfl⟩ :=
    Setup.Enters.outermost.of_holdsAt (decode_eq_decodeAt octets direction settings) holds
  rw [Nat.zero_add] at enters ⊢
  refine ⟨carriage, window, enters, rfl, fun element member isData => ?_⟩
  obtain ⟨span_eq, value_eq⟩ := Setup.decodeAt_userData member isData
  refine ⟨span_eq, ?_⟩
  rw [value_eq, Config.userDataValue]
  split
  · exact .inr ⟨_, rfl⟩
  · exact .inl rfl

/--
A request for service carries user data that is handed to a protocol in one run,
and to none in the other.  Bare, both runs come to the same.
-/
theorem decode_labelsUserData_controlPlane :
    let octets : List UInt8 :=
      [0x07, 0x4D, 0x01, 0x78, 0x00, 0x07, 0x52, 0x00, 0xEB, 0x00, 0x02, 0x45, 0x00]
    let other : Config :=
      { Config.standard with userData := .nonIp, nonIpProtocol := "coap" }
    let data (value : Value) : Element :=
      ⟨none, "User data container", ⟨9, 13⟩, value⟩
    let transport (value : Value) : Message :=
      { Message.empty with
        discriminator := some 0x02
        bearerIdentity := some 0x05
        transactionIdentity := some 0x00
        messageType := some 0xEB
        name := some "ESM data transport"
        elements := [data value] }
    (decode octets .uplink .standard).HoldsAt 1 (transport (.octets [0x45, 0x00])) ∧
      (decode octets .uplink other).HoldsAt 1 (transport (.handoff "coap" [0x45, 0x00])) ∧
      (decode octets .uplink other).withBareData =
        (decode octets .uplink .standard).withBareData ∧
      ∃ content : Window,
        content.remainingSpan = ⟨11, 13⟩ ∧
          (data (.handoff "coap" [0x45, 0x00])).value = .handoff "coap" content.rest := by
  intro octets other data transport
  have container_mem (value : Value) :
      (⟨some 0x78, "ESM message container", ⟨3, 13⟩, value⟩ : Element) ∈
        [ ⟨none, "Control plane service type", ⟨2, 3⟩,
            .fields
              [ ⟨"Active flag", .flag false⟩,
                ⟨"Control plane service type value", .coded 1 "Mobile terminating request"⟩ ]⟩,
          ⟨none, "NAS key set identifier", ⟨2, 3⟩,
            .fields
              [ ⟨"Type of security context flag", .coded 0 "Native security context"⟩,
                ⟨"NAS key set identifier", .coded 0 "Key set identifier"⟩ ]⟩,
          ⟨some 0x78, "ESM message container", ⟨3, 13⟩, value⟩ ] := by
    simp
  have near : (decode octets .uplink .standard).HoldsAt 1 (transport (.octets [0x45, 0x00])) :=
    .nested (container_mem _) .message .self
  have far :
      (decode octets .uplink other).HoldsAt 1 (transport (.handoff "coap" [0x45, 0x00])) :=
    .nested (container_mem _) .message .self
  obtain ⟨same, settled⟩ :=
    decode_labelsUserData octets .uplink .standard .nonIp "coap"
  obtain ⟨carriage, window, -, -, found⟩ :=
    settled other (List.mem_cons_of_mem _ List.mem_cons_self) 1 _ far
  obtain ⟨span_eq, value_eq | ⟨protocol, value_eq⟩⟩ :=
    found (data (.handoff "coap" [0x45, 0x00])) (List.mem_singleton_self _) rfl
  · cases value_eq
  · refine ⟨near, far, same, _, span_eq, ?_⟩
    obtain ⟨rfl, rest_eq⟩ := Value.handoff.inj value_eq
    rw [← rest_eq]

end LteNas
