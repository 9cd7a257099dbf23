import LteNas.Proofs.Decode.Nesting
import LteNas.Proofs.Octets.Nibbles

namespace LteNas

/-!
# The shapes of decoded messages

Decoding never fails silently.  A message whose name is not found out has the one
diagnostic that says why, and a message with a name has the elements or the type
that the name stands for.  Every way out of the decoder leads to one of these
shapes, at every depth.
-/

/-! ## Codes -/

theorem Protocol.eq_discriminator
    {code : UInt8}
    {protocol : Protocol}
    (found : ofDiscriminator? code = some protocol) :
    code = protocol.discriminator := by
  have decided :
      ∀ code protocol, ofDiscriminator? code = some protocol → code = protocol.discriminator :=
    octet_forall (by decide +kernel)
  exact decided code protocol found

theorem MobilityMessage.eq_code
    {code : UInt8}
    {message : MobilityMessage}
    (found : ofCode? code = some message) :
    code = message.code := by
  have decided : ∀ code message, ofCode? code = some message → code = message.code :=
    octet_forall (by decide +kernel)
  exact decided code message found

theorem SessionMessage.eq_code
    {code : UInt8}
    {message : SessionMessage}
    (found : ofCode? code = some message) :
    code = message.code := by
  have decided : ∀ code message, ofCode? code = some message → code = message.code :=
    octet_forall (by decide +kernel)
  exact decided code message found

/-! ## Shapes -/

/-- A finding that leaves the name of a message unknown although its octets can be read. -/
inductive DiagnosticKind.HidesName : DiagnosticKind → Prop where
  | noDiscriminator : HidesName (.missingMandatory "Protocol discriminator")
  | noTransactionIdentity : HidesName (.missingMandatory "Procedure transaction identity")
  | noMessageType : HidesName (.missingMandatory "Message type")
  | truncatedHeader : HidesName (.outOfBounds "Security header")
  | wrongDiscriminator (code : UInt8) : HidesName (.wrongDiscriminator code)
  | unknownMessageType (code : UInt8) : HidesName (.unknownMessageType code)

/-- Nothing is known of the message but why nothing more is. -/
structure Message.IsUnnamed (message : Message) : Prop where
  name_eq : message.name = none
  elements_eq : message.elements = []
  reported : ∃ kind span, kind.HidesName ∧ message.diagnostics = [⟨kind, span⟩]

/-- A message that is read from a window, which stands behind its outer header, has a shape. -/
inductive Message.Shape (window : Window) (message : Message) : Prop where
  | unnamed (isUnnamed : message.IsUnnamed)
  | ciphered (envelope : Envelope)
      (envelope_eq : message.envelope = some envelope)
      (isCiphered : envelope.kind.isCiphered = true)
      (name_eq : message.name = none)
      (elements_eq : message.elements =
        [⟨none, "Ciphered message", window.remainingSpan, .ciphered window.rest⟩])
      (diagnostics_eq : message.diagnostics = [⟨.decipherFailed, window.remainingSpan⟩])
  | serviceRequest (envelope : Envelope)
      (envelope_eq : message.envelope = some envelope)
      (kind_eq : envelope.kind = .serviceRequest)
      (name_eq : message.name = some Scope.serviceRequestName)
      (labels_eq : message.elements.map Element.label =
        ["KSI and sequence number", "Message authentication code (short)"])
  | testProcedures
      (discriminator_eq : message.discriminator = some Protocol.testProcedures.discriminator)
      (name_eq : message.name = some Protocol.testProcedures.name)
      (elements_eq : message.elements =
        [⟨none, "Test procedures message", window.remainingSpan,
          .handoff Scope.testProtocol window.rest⟩])
  | mobility (type : MobilityMessage)
      (discriminator_eq : message.discriminator = some Protocol.mobilityManagement.discriminator)
      (type_eq : message.messageType = some type.code)
      (name_eq : message.name = some type.name)
  | session (type : SessionMessage)
      (discriminator_eq : message.discriminator = some Protocol.sessionManagement.discriminator)
      (type_eq : message.messageType = some type.code)
      (name_eq : message.name = some type.name)

/--
A message is well formed behind its outer header: it has a shape, only session
management has bearers, and only a bearer has transactions.
-/
structure Message.IsFormed (window : Window) (message : Message) : Prop where
  shape : message.Shape window
  discriminator_eq :
    message.bearerIdentity.isSome = true →
      message.discriminator = some Protocol.sessionManagement.discriminator
  bearerIdentity_isSome :
    message.transactionIdentity.isSome = true → message.bearerIdentity.isSome = true

/-- The message tells nothing of itself but what an outer header can tell. -/
structure Message.IsOpened (message : Message) : Prop extends message.IsBlank where
  name_eq : message.name = none
  bearerIdentity_eq : message.bearerIdentity = none
  transactionIdentity_eq : message.transactionIdentity = none

namespace Message

variable {message : Message} {window : Window} {kind : DiagnosticKind}

/-- A message of which nothing was found has its first finding as its only one. -/
theorem IsUnnamed.report
    (blank : message.IsBlank)
    (name_eq : message.name = none)
    (hidesName : kind.HidesName)
    (span : Span) :
    (message.report kind span).IsUnnamed where
  name_eq := name_eq
  elements_eq := blank.elements_eq
  reported := by
    refine ⟨kind, span, hidesName, ?_⟩
    rw [Message.report, blank.diagnostics_eq, List.nil_append]

/-- A message without bearer and transaction is well formed in any shape. -/
theorem Shape.isFormed
    (shape : message.Shape window)
    (bearerIdentity_eq : message.bearerIdentity = none)
    (transactionIdentity_eq : message.transactionIdentity = none) :
    message.IsFormed window where
  shape := shape
  discriminator_eq := by
    simp [bearerIdentity_eq]
  bearerIdentity_isSome := by
    simp [transactionIdentity_eq]

end Message

/-! ## Plain messages -/

namespace Scope

variable {message : Message}

/-- Behind the message type, what was told of the protocol stays what it was. -/
theorem decodeTyped_identities
    (scope : Scope)
    (layout? : UInt8 → Option MessageLayout)
    (message : Message)
    (window : Window) :
    let typed := (scope.decodeTyped layout? message window).1
    typed.discriminator = message.discriminator ∧
      typed.bearerIdentity = message.bearerIdentity ∧
      typed.transactionIdentity = message.transactionIdentity := by
  dsimp only
  rw [decodeTyped]
  cases window.octet with
  | error shortage =>
      exact ⟨rfl, rfl, rfl⟩
  | ok read =>
      obtain ⟨code, after⟩ := read
      dsimp only
      split
      · exact ⟨rfl, rfl, rfl⟩
      · exact ⟨rfl, rfl, rfl⟩

/-- A message has the name of its type, if it has a type that is known. -/
theorem decodeTyped_name
    {layout? : UInt8 → Option MessageLayout}
    (scope : Scope)
    (blank : message.IsBlank)
    (name_eq : message.name = none)
    (window : Window) :
    let typed := (scope.decodeTyped layout? message window).1
    typed.IsUnnamed ∨
      ∃ code layout,
        layout? code = some layout ∧
          typed.messageType = some code ∧
          typed.name = some layout.name := by
  dsimp only
  rw [decodeTyped]
  cases window.octet with
  | error shortage =>
      exact .inl (.report blank name_eq .noMessageType _)
  | ok read =>
      obtain ⟨code, after⟩ := read
      have typed : Message.IsBlank { message with messageType := some code } :=
        ⟨blank.1, blank.2⟩
      dsimp only
      split
      · rename_i layout found
        exact .inr ⟨code, layout, found, rfl, rfl⟩
      · exact .inl (.report typed name_eq (.unknownMessageType code) _)

theorem decodeMobility_isFormed
    (scope : Scope)
    (opened : message.IsOpened)
    (discriminator_eq :
      message.discriminator = some Protocol.mobilityManagement.discriminator)
    (behind window : Window) :
    Message.IsFormed behind
      (scope.decodeTyped MobilityMessage.layout? message window).1 := by
  obtain ⟨kept, bearer_eq, transaction_eq⟩ :=
    scope.decodeTyped_identities MobilityMessage.layout? message window
  have shape :
      Message.Shape behind (scope.decodeTyped MobilityMessage.layout? message window).1 := by
    rcases scope.decodeTyped_name opened.toIsBlank opened.name_eq window with unnamed | named
    · exact .unnamed unnamed
    · obtain ⟨code, layout, found, type_eq, named_eq⟩ := named
      obtain ⟨type, type_found, rfl⟩ := Option.map_eq_some_iff.mp found
      rw [MobilityMessage.eq_code type_found] at type_eq
      exact .mobility type (kept.trans discriminator_eq) type_eq named_eq
  exact shape.isFormed
    (bearer_eq.trans opened.bearerIdentity_eq)
    (transaction_eq.trans opened.transactionIdentity_eq)

theorem decodeSession_isFormed
    {bearer : UInt8}
    (scope : Scope)
    (blank : message.IsBlank)
    (name_eq : message.name = none)
    (discriminator_eq :
      message.discriminator = some Protocol.sessionManagement.discriminator)
    (bearer_eq : message.bearerIdentity = some bearer)
    (behind window : Window) :
    Message.IsFormed behind (scope.decodeSession message window).1 := by
  rw [decodeSession]
  cases window.octet with
  | error shortage =>
      refine ⟨.unnamed (.report blank name_eq .noTransactionIdentity _), fun _ => ?_, fun _ => ?_⟩
      · exact discriminator_eq
      · exact Option.isSome_iff_exists.mpr ⟨bearer, bearer_eq⟩
  | ok read =>
      obtain ⟨transaction, after⟩ := read
      dsimp only
      let identified : Message :=
        { message with transactionIdentity := some transaction }
      have identifiedBlank : identified.IsBlank :=
        ⟨blank.1, blank.2⟩
      obtain ⟨kept, bearer_kept, -⟩ :=
        scope.decodeTyped_identities SessionMessage.layout? identified after
      refine ⟨?_, fun _ => kept.trans discriminator_eq, fun _ => ?_⟩
      · rcases scope.decodeTyped_name identifiedBlank name_eq after with unnamed | named
        · exact .unnamed unnamed
        · obtain ⟨code, layout, found, type_eq, named_eq⟩ := named
          obtain ⟨type, type_found, rfl⟩ := Option.map_eq_some_iff.mp found
          rw [SessionMessage.eq_code type_found] at type_eq
          exact .session type (kept.trans discriminator_eq) type_eq named_eq
      · exact Option.isSome_iff_exists.mpr ⟨bearer, bearer_kept.trans bearer_eq⟩

theorem decodePlain_isFormed
    (scope : Scope)
    (opened : message.IsOpened)
    (window : Window) :
    Message.IsFormed window (scope.decodePlain message window).1 := by
  have bearer_eq := opened.bearerIdentity_eq
  have transaction_eq := opened.transactionIdentity_eq
  rw [decodePlain]
  cases window.peek? with
  | none =>
      have unnamed := Message.IsUnnamed.report opened.toIsBlank opened.name_eq .noDiscriminator
        ⟨window.position, window.position⟩
      exact (Message.Shape.unnamed unnamed).isFormed bearer_eq transaction_eq
  | some first =>
      let discriminator := Protocol.discriminatorOf first
      -- the discriminator takes the place of that of the outer header
      let told : Message :=
        { message with discriminator := some discriminator }
      have told_isOpened : told.IsOpened :=
        ⟨⟨opened.1.1, opened.1.2⟩, opened.name_eq, bearer_eq, transaction_eq⟩
      dsimp only
      split
      · rename_i found
        let identified : Message :=
          { told with bearerIdentity := some (highNibble first) }
        have blank : identified.IsBlank :=
          ⟨opened.1.1, opened.1.2⟩
        exact scope.decodeSession_isFormed blank opened.name_eq
          (congrArg some (Protocol.eq_discriminator found)) rfl window _
      · rename_i found
        exact scope.decodeMobility_isFormed told_isOpened
          (congrArg some (Protocol.eq_discriminator found)) window _
      · rename_i found
        have elements_eq :
            (takeTestMessage told window).1.elements =
              [⟨none, "Test procedures message", window.remainingSpan,
                .handoff testProtocol window.rest⟩] := by
          simp [takeTestMessage, Message.append, told_isOpened.elements_eq]
        have shape : Message.Shape window (takeTestMessage told window).1 :=
          .testProcedures (congrArg some (Protocol.eq_discriminator found)) rfl elements_eq
        exact shape.isFormed bearer_eq transaction_eq
      · have unnamed := Message.IsUnnamed.report told_isOpened.toIsBlank opened.name_eq
          (.wrongDiscriminator discriminator) ⟨window.position, window.position + 1⟩
        exact (Message.Shape.unnamed unnamed).isFormed bearer_eq transaction_eq

/-! ## Protected messages -/

theorem decodeServiceRequest_isFormed
    {envelope : Envelope}
    (opened : message.IsOpened)
    (envelope_eq : message.envelope = some envelope)
    (kind_eq : envelope.kind = .serviceRequest)
    (behind window : Window) :
    Message.IsFormed behind (decodeServiceRequest envelope message window).1 := by
  let shown : Message := serviceRequestAt envelope message (window.position - 4)
  have labels_eq :
      shown.elements.map Element.label =
        ["KSI and sequence number", "Message authentication code (short)"] := by
    simp [shown, serviceRequestAt, Message.append, opened.elements_eq]
  have shape : Message.Shape behind shown :=
    .serviceRequest envelope envelope_eq kind_eq rfl labels_eq
  have reported : Message.Shape behind (shown.report .extraneousData window.remainingSpan) :=
    .serviceRequest envelope envelope_eq kind_eq rfl labels_eq
  rw [decodeServiceRequest_eq]
  split
  · exact shape.isFormed opened.bearerIdentity_eq opened.transactionIdentity_eq
  · exact reported.isFormed opened.bearerIdentity_eq opened.transactionIdentity_eq

end Scope

theorem Message.unopened_isFormed
    (window behind : Window)
    (fault : EnvelopeFault) :
    Message.IsFormed behind (Message.unopened window fault) := by
  cases fault with
  | wrongProtocol discriminator headerType =>
      exact (Message.Shape.unnamed
        (.report ⟨rfl, rfl⟩ rfl (.wrongDiscriminator discriminator) _)).isFormed rfl rfl
  | truncated shortage =>
      refine (Message.Shape.unnamed (.report ⟨rfl, rfl⟩ rfl ?_ _)).isFormed rfl rfl
      split
      · exact .noDiscriminator
      · exact .truncatedHeader

namespace Setup

variable {setup : Setup} {envelope : Envelope} {message : Message} {depth : Nat}

theorem decodeCiphered_isFormed
    (opened : message.IsOpened)
    (envelope_eq : message.envelope = some envelope)
    (isCiphered : envelope.kind.isCiphered = true)
    (scope : Scope)
    (window : Window)
    (cipher_eq : scope.payloadCipher envelope = (setup.scope 0).payloadCipher envelope) :
    Message.IsFormed (setup.deciphered envelope window)
      (scope.decodeCiphered envelope message window).1 := by
  rw [deciphered, if_pos isCiphered, Scope.decodeCiphered, cipher_eq]
  cases ((setup.scope 0).payloadCipher envelope).decipher? window.rest with
  | some plain =>
      exact scope.decodePlain_isFormed opened _
  | none =>
      have shape :
          Message.Shape window
            ((message.append "Ciphered message" window.remainingSpan
              (.ciphered window.rest)).report .decipherFailed window.remainingSpan) := by
        refine .ciphered envelope envelope_eq isCiphered opened.name_eq ?_ ?_
        · simp [Message.report, Message.append, opened.elements_eq]
        · simp [Message.report, Message.append, opened.diagnostics_eq]
      exact shape.isFormed opened.bearerIdentity_eq opened.transactionIdentity_eq

theorem decodePayload_isFormed
    (opened : message.IsOpened)
    (envelope_eq : message.envelope = some envelope)
    (window : Window) :
    Message.IsFormed (setup.deciphered envelope window)
      ((setup.scope depth).decodePayload envelope message window).1 := by
  rw [Scope.decodePayload]
  split
  · rename_i kind_eq
    exact Scope.decodeServiceRequest_isFormed opened envelope_eq kind_eq _ _
  · rename_i kind_eq
    rw [deciphered_of_not_ciphered (by rw [kind_eq]; rfl)]
    exact Scope.decodePlain_isFormed _ opened window
  · cases isCiphered : envelope.kind.isCiphered with
    | true =>
        exact decodeCiphered_isFormed opened envelope_eq isCiphered _ window rfl
    | false =>
        rw [deciphered_of_not_ciphered isCiphered]
        exact Scope.decodePlain_isFormed _ opened window

/-- A message at a depth is well formed behind its outer header. -/
theorem decodeAt_isFormed
    (setup : Setup)
    (depth : Nat)
    (carriage : Carriage)
    (window : Window) :
    (setup.decodeAt depth carriage window).IsFormed (setup.readable carriage window) := by
  cases carriage with
  | bare =>
      exact Scope.decodePlain_isFormed _ ⟨⟨rfl, rfl⟩, rfl, rfl, rfl⟩ window
  | complete =>
      cases read : Envelope.read setup.config.dissectPlain window with
      | ok outer =>
          obtain ⟨envelope, after⟩ := outer
          have readable_eq : setup.readable .complete window = setup.deciphered envelope after := by
            rw [readable, read]
          have decode_eq :
              (setup.scope depth).decodeMessage window =
                (setup.scope depth).decodePayload envelope
                  { Message.empty with
                    envelope := some envelope
                    discriminator := some envelope.discriminator }
                  after :=
            Scope.decodeMessage_of_ok read
          rw [readable_eq, decodeAt, Scope.decodeCarried, decode_eq]
          exact decodePayload_isFormed ⟨⟨rfl, rfl⟩, rfl, rfl, rfl⟩ rfl after
      | error fault =>
          have decode_eq :
              setup.decodeAt depth .complete window = Message.unopened window fault :=
            Scope.decodeMessage_of_error read
          rw [decode_eq]
          exact Message.unopened_isFormed window _ fault

end Setup

/--
Decoding never fails silently: the message and every message inside it are well
formed over the octets that they are read from.
-/
theorem decode_isFormed
    (octets : List UInt8)
    (direction : Direction)
    (config : Config) :
    let setup := Setup.ofConfig config direction
    ∀ depth inner, (decode octets direction config).HoldsAt depth inner →
      ∃ carriage window,
        setup.Enters octets depth carriage window ∧
          inner = setup.decodeAt depth carriage window ∧
          inner.IsFormed (setup.readable carriage window) := by
  intro setup depth inner holds
  obtain ⟨carriage, window, enters, rfl⟩ :=
    Setup.Enters.outermost.of_holdsAt (decode_eq_decodeAt octets direction config) holds
  rw [Nat.zero_add] at enters ⊢
  exact ⟨carriage, window, enters, rfl, setup.decodeAt_isFormed depth carriage window⟩

/-- The message inside a completed attach ends in front of its transaction identity, and says so. -/
theorem decode_isFormed_attachComplete :
    let octets : List UInt8 :=
      [0x07, 0x43, 0x00, 0x01, 0x52]
    let setup := Setup.ofConfig .standard .uplink
    let inner : Message :=
      { Message.empty with
        discriminator := some 0x02
        bearerIdentity := some 0x05
        diagnostics := [⟨.missingMandatory "Procedure transaction identity", ⟨5, 5⟩⟩] }
    (decode octets .uplink .standard).HoldsAt 1 inner ∧
      ∃ carriage window,
        setup.Enters octets 1 carriage window ∧
          inner = setup.decodeAt 1 carriage window ∧
          inner.IsFormed (setup.readable carriage window) := by
  intro octets setup inner
  have elements_eq :
      (decode octets .uplink .standard).elements =
        [⟨none, "ESM message container", ⟨2, 5⟩, .message inner⟩] := by
    rfl
  have holds : (decode octets .uplink .standard).HoldsAt 1 inner := by
    have member :
        ⟨none, "ESM message container", ⟨2, 5⟩, .message inner⟩ ∈
          (decode octets .uplink .standard).elements := by
      rw [elements_eq]
      exact List.mem_singleton_self _
    exact .nested member .message .self
  exact ⟨holds, decode_isFormed octets .uplink .standard 1 inner holds⟩

end LteNas
