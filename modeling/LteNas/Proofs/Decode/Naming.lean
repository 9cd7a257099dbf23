import LteNas.Decode
import LteNas.Proofs.Envelope
import LteNas.Proofs.Naming.Shipped

namespace LteNas

/-!
# What is said in decoded messages

A decoded message keeps to the rules of the decoders, at every depth: its names
are headings, its words are of one line, and its protected headers are complete.
Only its texts are what was received.
-/

open Text

/-! ## Headers -/

theorem Envelope.isComplete_of_ofOctets
    {dissectPlain : Bool}
    {octets : List UInt8}
    {envelope : Envelope}
    (found : ofOctets dissectPlain octets = .ok envelope) :
    envelope.IsComplete := by
  cases octets with
  | nil =>
      contradiction
  | cons first behind =>
      simp only [ofOctets] at found
      split at found
      · split at found
        · cases found
          exact fun _ => ⟨rfl, rfl⟩
        · contradiction
      · split at found
        · cases found
          intro isProtected
          contradiction
        · split at found
          · cases found
            exact fun _ => ⟨rfl, rfl⟩
          · contradiction

theorem Envelope.isComplete_of_read
    {dissectPlain : Bool}
    {window after : Window}
    {envelope : Envelope}
    (found : read dissectPlain window = .ok (envelope, after)) :
    envelope.IsComplete := by
  rw [read_eq] at found
  cases opened : ofOctets dissectPlain window.rest with
  | error fault =>
      rw [opened] at found
      contradiction
  | ok outer =>
      rw [opened] at found
      cases found
      exact isComplete_of_ofOctets opened

/-! ## Messages in the making -/

section Making

variable {message : Message}

theorem Message.Obeys.report
    (obeys : message.Obeys .decoded)
    {kind : DiagnosticKind}
    (kindObeys : kind.Obeys .decoded)
    (span : Span) :
    (message.report kind span).Obeys .decoded := by
  obtain ⟨names, complete, elements, diagnostics⟩ := Message.obeys_iff.mp obeys
  refine Message.obeys_iff.mpr ⟨names, complete, elements, ?_⟩
  exact DiagnosticsObey.append diagnostics (.sole kindObeys span)

/-- A finding that cites the literal name of a part of the header obeys the rules. -/
theorem Message.Obeys.reportPart
    (obeys : message.Obeys .decoded)
    {characters : List Char}
    {kind : DiagnosticKind}
    (cites : kind.cited = [String.ofList characters])
    (unbroken : characters.all (· != '\n') = true)
    (span : Span) :
    (message.report kind span).Obeys .decoded :=
  obeys.report (DiagnosticKind.obeys_of_cites (.of_characters unbroken) cites) span

theorem Message.Obeys.append
    (obeys : message.Obeys .decoded)
    {characters : List Char}
    {value : Value}
    (heading : areHeading characters = true)
    (valueObeys : value.Obeys .decoded)
    (span : Span) :
    (message.append (String.ofList characters) span value).Obeys .decoded := by
  obtain ⟨names, complete, elements, diagnostics⟩ := Message.obeys_iff.mp obeys
  refine Message.obeys_iff.mpr ⟨names, complete, ?_, diagnostics⟩
  refine List.forall_mem_append.mpr ⟨elements, ?_⟩
  rw [List.forall_mem_singleton]
  exact ⟨IsHeading.of_characters heading, valueObeys⟩

theorem Message.Obeys.named
    (obeys : message.Obeys .decoded)
    {name : String}
    (heading : IsHeading name) :
    Message.Obeys .decoded { message with name := some name } := by
  obtain ⟨-, complete, elements, diagnostics⟩ := Message.obeys_iff.mp obeys
  refine Message.obeys_iff.mpr ⟨?_, complete, elements, diagnostics⟩
  rintro _ ⟨⟩
  exact heading

/-- What the header says does not matter. -/
theorem Message.Obeys.headed
    (obeys : message.Obeys .decoded)
    (discriminator bearerIdentity transactionIdentity messageType : Option UInt8) :
    Message.Obeys .decoded
      { message with discriminator, bearerIdentity, transactionIdentity, messageType } := by
  cases message
  exact obeys

theorem Message.empty_obeys :
    Message.empty.Obeys .decoded :=
  Message.obeys_iff.mpr ⟨nofun, nofun, nofun, nofun⟩

/-- Name and catalogues of a message type obey the rules. -/
structure MessageLayout.Obeys (layout : MessageLayout) : Prop where
  name : IsHeading layout.name
  catalogues : ∀ catalogue ∈ layout.body.catalogues, catalogue.Obeys

end Making

theorem MobilityMessage.layout_obeys
    {code : UInt8}
    {layout : MessageLayout}
    (found : layout? code = some layout) :
    layout.Obeys := by
  obtain ⟨message, -, rfl⟩ := Option.map_eq_some_iff.mp found
  exact ⟨message.name_isHeading, mobilityCatalogues_obey message⟩

theorem SessionMessage.layout_obeys
    {code : UInt8}
    {layout : MessageLayout}
    (found : layout? code = some layout) :
    layout.Obeys := by
  obtain ⟨message, -, rfl⟩ := Option.map_eq_some_iff.mp found
  exact ⟨message.name_isHeading, sessionCatalogues_obey message⟩

/-! ## Decoded messages -/

namespace Scope

variable {scope : Scope} {message : Message}

theorem decodeBody_obeys
    (nests : scope.NestsObeying)
    (obeys : message.Obeys .decoded)
    {layout : MessageLayout}
    (layoutObeys : layout.Obeys)
    (window : Window) :
    (scope.decodeBody layout message window).1.Obeys .decoded := by
  obtain ⟨-, complete, -, -⟩ := Message.obeys_iff.mp obeys
  have entries : (layout.body.entries scope.direction window).Obeys :=
    layoutObeys.catalogues _ (layout.body.entries_mem_catalogues scope.direction window)
  have walk := Catalogue.walk_obeys entries nests window
  refine Message.obeys_iff.mpr ⟨?_, complete, walk.elements, walk.diagnostics⟩
  rintro _ ⟨⟩
  exact layoutObeys.name

theorem decodeTyped_obeys
    (nests : scope.NestsObeying)
    (obeys : message.Obeys .decoded)
    {layout? : UInt8 → Option MessageLayout}
    (layouts : ∀ {code layout}, layout? code = some layout → layout.Obeys)
    (window : Window) :
    (scope.decodeTyped layout? message window).1.Obeys .decoded := by
  rw [decodeTyped]
  cases window.octet with
  | error shortage =>
      exact obeys.reportPart rfl rfl _
  | ok outcome =>
      obtain ⟨code, after⟩ := outcome
      have typed : Message.Obeys .decoded { message with messageType := some code } :=
        obeys.headed _ _ _ _
      dsimp only
      split
      · rename_i layout found
        exact decodeBody_obeys nests typed (layouts found) after
      · exact typed.report (DiagnosticKind.obeys_of_cites_nothing rfl) _

theorem decodeSession_obeys
    (nests : scope.NestsObeying)
    (obeys : message.Obeys .decoded)
    (window : Window) :
    (scope.decodeSession message window).1.Obeys .decoded := by
  rw [decodeSession]
  cases window.octet with
  | error shortage =>
      exact obeys.reportPart rfl rfl _
  | ok outcome =>
      exact decodeTyped_obeys nests (obeys.headed _ _ _ _) SessionMessage.layout_obeys outcome.2

theorem takeTestMessage_obeys
    (obeys : message.Obeys .decoded)
    (window : Window) :
    (takeTestMessage message window).1.Obeys .decoded := by
  have handedOver : (Value.handoff testProtocol window.rest).Obeys .decoded :=
    trivial
  exact (obeys.named Protocol.testProcedures.name_isHeading).append rfl handedOver _

theorem decodePlain_obeys
    (nests : scope.NestsObeying)
    (obeys : message.Obeys .decoded)
    (window : Window) :
    (scope.decodePlain message window).1.Obeys .decoded := by
  rw [decodePlain]
  cases window.peek? with
  | none =>
      exact obeys.reportPart rfl rfl _
  | some first =>
      have discriminated : Message.Obeys .decoded
          { message with discriminator := some (Protocol.discriminatorOf first) } :=
        obeys.headed _ _ _ _
      dsimp only
      split
      · exact decodeSession_obeys nests (obeys.headed _ _ _ _) _
      · exact decodeTyped_obeys nests discriminated MobilityMessage.layout_obeys _
      · exact takeTestMessage_obeys discriminated window
      · exact discriminated.report (DiagnosticKind.obeys_of_cites_nothing rfl) _

theorem decodeServiceRequest_obeys
    (obeys : message.Obeys .decoded)
    (envelope : Envelope)
    (window : Window) :
    (decodeServiceRequest envelope message window).1.Obeys .decoded := by
  have named := obeys.named (IsHeading.of_characters rfl : IsHeading serviceRequestName)
  have identifiers :
      (Value.fields
        [ numberField "KSI" (envelope.keySet.getD 0).toNat,
          numberField "Sequence number (short)" (envelope.sequenceNumber.getD 0).toNat ]).Obeys
        .decoded :=
    FieldsObey.cons rfl trivial (.cons rfl trivial .nil)
  have code : (Value.number (envelope.authenticationCode.getD 0)).Obeys .decoded :=
    trivial
  rw [decodeServiceRequest]
  split
  · exact .append (.append named rfl identifiers _) rfl code _
  · exact .report (.append (.append named rfl identifiers _) rfl code _)
      (DiagnosticKind.obeys_of_cites_nothing rfl) _

theorem decodeCiphered_obeys
    (nests : scope.NestsObeying)
    (obeys : message.Obeys .decoded)
    (envelope : Envelope)
    (window : Window) :
    (scope.decodeCiphered envelope message window).1.Obeys .decoded := by
  rw [decodeCiphered]
  split
  · exact decodePlain_obeys nests obeys _
  · have kept : (Value.ciphered window.rest).Obeys .decoded :=
      trivial
    exact (obeys.append rfl kept _).report (DiagnosticKind.obeys_of_cites_nothing rfl) _

theorem decodePayload_obeys
    (nests : scope.NestsObeying)
    (obeys : message.Obeys .decoded)
    (envelope : Envelope)
    (window : Window) :
    (scope.decodePayload envelope message window).1.Obeys .decoded := by
  rw [decodePayload]
  split
  · exact decodeServiceRequest_obeys obeys envelope window
  · have partialNests : Scope.NestsObeying { scope with partiallyCiphered := true } :=
      nests
    exact decodePlain_obeys partialNests obeys window
  · split
    · exact decodeCiphered_obeys nests obeys envelope window
    · exact decodePlain_obeys nests obeys window

theorem decodeMessage_obeys
    (nests : scope.NestsObeying)
    (window : Window) :
    (scope.decodeMessage window).1.Obeys .decoded := by
  rw [decodeMessage]
  cases opened : Envelope.read scope.config.dissectPlain window with
  | ok outcome =>
      obtain ⟨envelope, after⟩ := outcome
      have complete := Envelope.isComplete_of_read opened
      apply decodePayload_obeys nests
      refine Message.obeys_iff.mpr ⟨nofun, ?_, nofun, nofun⟩
      rintro _ ⟨⟩
      exact complete
  | error fault =>
      cases fault with
      | wrongProtocol discriminator headerType =>
          exact (Message.empty_obeys.headed (some discriminator) none none none).report
            (DiagnosticKind.obeys_of_cites_nothing rfl) _
      | truncated shortage =>
          dsimp only
          split
          · exact Message.empty_obeys.reportPart rfl rfl _
          · exact Message.empty_obeys.reportPart rfl rfl _

theorem decodeCarried_obeys
    (nests : scope.NestsObeying)
    (carriage : Carriage)
    (window : Window) :
    (scope.decodeCarried window carriage).1.Obeys .decoded := by
  cases carriage with
  | complete =>
      exact decodeMessage_obeys nests window
  | bare =>
      exact decodePlain_obeys nests Message.empty_obeys window

end Scope

/-! ## Nesting -/

/-- However many levels may still be entered, the messages inside obey the rules. -/
theorem Setup.freshScope_nestsObeying
    (setup : Setup)
    (levels depth : Nat) :
    (setup.freshScope (setup.decodeNested levels depth) depth).NestsObeying := by
  induction levels generalizing depth with
  | zero =>
      exact nofun
  | succ levels inductionHypothesis =>
      intro carriage window message after found
      have obeys :=
        Scope.decodeCarried_obeys (inductionHypothesis (depth + 1)) carriage window
      have carried_eq :
          (setup.freshScope (setup.decodeNested levels (depth + 1)) (depth + 1)).decodeCarried
            window carriage = (message, after) :=
        Option.some.inj found
      rwa [carried_eq] at obeys

/-- What is decoded keeps to the rules of the decoders. -/
theorem decode_obeys
    (octets : List UInt8)
    (direction : Direction)
    (config : Config) :
    (decode octets direction config).Obeys .decoded :=
  Scope.decodeMessage_obeys (Setup.freshScope_nestsObeying _ _ _) _

end LteNas
