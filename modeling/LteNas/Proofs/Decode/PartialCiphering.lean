import LteNas.Proofs.Catalogue.Truncation
import LteNas.Proofs.Decode.Nesting
import LteNas.Proofs.Decode.Wrapping
import LteNas.Proofs.Element.Sessions

namespace LteNas

/-!
# Partially ciphered messages

A message that is integrity protected and partially ciphered has its session
message ciphered on its own.  Where that cannot be read it is left as it is and
has no influence on anything else.  No other message has a value that is left
ciphered, save a payload that is ciphered as a whole.
-/

/-! ## The catalogues of the messages -/

theorem mobilityCatalogues_ciphersSessions
    (message : MobilityMessage) :
    ∀ catalogue ∈ message.body.catalogues, catalogue.CiphersSessions := by
  simp only [Catalogue.CiphersSessions]
  cases message <;> decide

theorem sessionCatalogues_ciphersSessions
    (message : SessionMessage) :
    ∀ catalogue ∈ message.body.catalogues, catalogue.CiphersSessions := by
  simp only [Catalogue.CiphersSessions]
  cases message <;> decide

theorem Catalogue.IsShipped.ciphersSessions
    {catalogue : Catalogue}
    (shipped : catalogue.IsShipped) :
    catalogue.CiphersSessions := by
  rcases shipped with ⟨message, member⟩ | ⟨message, member⟩
  · exact mobilityCatalogues_ciphersSessions message catalogue member
  · exact sessionCatalogues_ciphersSessions message catalogue member

/-- The second octet and the number of octets decide how a body is read, and neither is replaced. -/
theorem MessageBody.entries_replaced
    {window : Window}
    {span : Span}
    {octets : List UInt8}
    (body : MessageBody)
    (direction : Direction)
    (inFront : window.position + 2 ≤ span.start)
    (ordered : span.start ≤ span.stop)
    (stop_le : span.stop ≤ window.stop)
    (length_eq : octets.length = span.stop - span.start) :
    body.entries direction (window.replaced span octets) = body.entries direction window := by
  have remaining_eq : (window.replaced span octets).remaining = window.remaining :=
    Window.replaced_remaining (by omega) ordered stop_le length_eq
  have second_eq : (window.replaced span octets).peekAt? 1 = window.peekAt? 1 := by
    have fits : 2 ≤ window.rest.length := by
      rw [Window.stop, Window.remaining] at stop_le
      omega
    have second : 1 < (window.rest.take 2).length := by
      rw [List.length_take_of_le fits]
      exact Nat.one_lt_two
    rw [Window.peekAt?, Window.replaced_rest inFront ordered, List.getElem?_append_left second,
      List.getElem?_take_of_lt Nat.one_lt_two]
    rfl
  have detach_eq :
      (window.replaced span octets).hasUplinkDetachLength = window.hasUplinkDetachLength := by
    rw [Window.hasUplinkDetachLength, Window.hasUplinkDetachLength, second_eq, remaining_eq]
  cases body with
  | catalogue entries =>
      rfl
  | byDirection uplink downlink =>
      cases direction with
      | uplink | downlink =>
          rfl
      | unknown =>
          rw [entries, entries, detach_eq]

/-! ## Plain messages -/

/-- The message with other octets left ciphered in its container of a session message. -/
def Message.withCiphered (octets : List UInt8) (message : Message) : Message :=
  { message with elements := message.elements.map (Element.withCiphered octets) }

/-- An element that belongs to no catalogue is no container. -/
theorem Element.IsUncatalogued.label_ne
    {element : Element}
    (uncatalogued : element.IsUncatalogued) :
    element.label ≠ "ESM message container" := by
  cases uncatalogued with
  | plain label_mem _ =>
      intro label_eq
      rw [label_eq] at label_mem
      exact absurd label_mem (by decide)
  | ciphered _ label_eq _ =>
      rw [label_eq]
      decide

/--
The container of a session message stands behind so many octets of a window.  Its
value is what is made of the octets that it covers, and so is all that is left
ciphered.
-/
structure Message.HoldsSession
    (message : Message)
    (scope : Scope)
    (least : Nat)
    (window : Window)
    (element : Element) :
    Prop where
  embeds : element.Embeds least window
  contentSpan_eq : (window.portion element.contentSpan).remainingSpan = element.contentSpan
  value_eq :
    let content := window.portion element.contentSpan
    element.value = ElementSpec.valueOf (ElementValue.sessionMessage scope content) content
  undeciphered_eq :
    undeciphered message.diagnostics =
      undeciphered
        (ElementValue.sessionMessage scope (window.portion element.contentSpan)).diagnostics
  reported :
    ∀ diagnostic ∈
        (ElementValue.sessionMessage scope (window.portion element.contentSpan)).diagnostics,
      diagnostic ∈ message.diagnostics

theorem Message.HoldsSession.remaining_eq
    {message : Message}
    {scope : Scope}
    {least : Nat}
    {window : Window}
    {element : Element}
    (holds : message.HoldsSession scope least window element) :
    (window.portion element.contentSpan).remaining =
      element.contentSpan.stop - element.contentSpan.start := by
  have span_eq := holds.contentSpan_eq
  generalize window.portion element.contentSpan = content at span_eq ⊢
  rw [← span_eq]
  simp [Window.remainingSpan, Window.stop]

/-- What stands behind octets that were read stands that many more behind the first of them. -/
theorem Message.HoldsSession.of_advance
    {message : Message}
    {scope : Scope}
    {least most count : Nat}
    {window : Window}
    {element : Element}
    (holds : message.HoldsSession scope least (window.advance count) element)
    (fits : count ≤ window.remaining)
    (enough : most ≤ count + least) :
    message.HoldsSession scope most window element := by
  have portion_eq := holds.embeds.portion_of_advance fits
  have span_eq := holds.contentSpan_eq
  have value_eq := holds.value_eq
  have undeciphered_eq := holds.undeciphered_eq
  have reported := holds.reported
  rw [portion_eq] at span_eq value_eq undeciphered_eq reported
  exact ⟨holds.embeds.of_advance fits enough, span_eq, value_eq, undeciphered_eq, reported⟩

namespace Scope

variable {scope : Scope} {layout : MessageLayout} {message : Message} {window : Window}
  {element : Element} {octets : List UInt8}

theorem decodeBody_session
    (shipped : layout.IsShipped)
    (member : element ∈ (scope.decodeBody layout message window).1.elements)
    (label_eq : element.label = "ESM message container") :
    (scope.decodeBody layout message window).1.HoldsSession scope 2 window element := by
  have entriesShipped := shipped.entries_isShipped scope.direction window
  have regular := entriesShipped.regular
  have ciphers := entriesShipped.ciphersSessions
  obtain ⟨before, entry, behind, pieces, here, cursor, body, after, passes, rfl⟩ :=
    Catalogue.exists_passesSession regular entriesShipped.labels_nodup ciphers member label_eq
  have span_eq :
      (entry.element ⟨cursor.position, after.position⟩
        (ElementSpec.valueOf (ElementValue.sessionMessage scope body) body)).contentSpan =
        body.remainingSpan :=
    passes.isContainer.contentSpan_eq passes.framing
  have content_eq : window.portion body.remainingSpan = body := by
    rw [← span_eq]
    exact passes.isContainer.portion_eq passes.visits.reaches passes.framing
  refine ⟨passes.isContainer.embeds passes.visits.reaches passes.framing, ?_, ?_, ?_, ?_⟩
  · rw [span_eq, content_eq]
  · rw [span_eq, content_eq]
    rfl
  · rw [span_eq, content_eq]
    exact passes.walk_undeciphered regular ciphers
  · rw [span_eq, content_eq]
    intro diagnostic reported
    rw [decodeBody, MessageBody.walk, passes.walk_session]
    exact List.mem_append_right _ (List.mem_append_left _ reported)

theorem decodeBody_replaced
    (shipped : layout.IsShipped)
    (isPartial : scope.partiallyCiphered = true)
    (member : element ∈ (scope.decodeBody layout message window).1.elements)
    (label_eq : element.label = "ESM message container")
    (unreadable : IsUnreadable (window.portion element.contentSpan).rest)
    (otherUnreadable : IsUnreadable octets)
    (length_eq : octets.length = (window.portion element.contentSpan).remaining) :
    (scope.decodeBody layout message (window.replaced element.contentSpan octets)).1 =
      (scope.decodeBody layout message window).1.withCiphered octets := by
  obtain ⟨embeds, -, -, -, -⟩ := decodeBody_session shipped member label_eq
  have entriesShipped := shipped.entries_isShipped scope.direction window
  obtain ⟨before, entry, behind, pieces, here, cursor, body, after, passes, element_eq⟩ :=
    Catalogue.exists_passesSession entriesShipped.regular entriesShipped.labels_nodup
      entriesShipped.ciphersSessions member label_eq
  have span_eq : element.contentSpan = body.remainingSpan := by
    rw [element_eq]
    exact passes.isContainer.contentSpan_eq passes.framing
  have content_eq : window.portion element.contentSpan = body := by
    rw [element_eq]
    exact passes.isContainer.portion_eq passes.visits.reaches passes.framing
  rw [content_eq] at unreadable length_eq
  have span_length : octets.length = element.contentSpan.stop - element.contentSpan.start := by
    rw [length_eq, span_eq]
    simp [Window.remainingSpan, Window.stop]
  have entries_eq :
      layout.body.entries scope.direction (window.replaced element.contentSpan octets) =
        layout.body.entries scope.direction window :=
    layout.body.entries_replaced scope.direction embeds.start_le embeds.ordered embeds.stop_le
      span_length
  obtain ⟨elements_eq, diagnostics_eq⟩ :=
    passes.walk_replaced isPartial unreadable otherUnreadable length_eq
  rw [← span_eq] at elements_eq diagnostics_eq
  simp only [decodeBody, MessageBody.walk, entries_eq, elements_eq, diagnostics_eq]
  rfl

/-- A container of a session message stands behind the header of its message. -/
theorem decodePlain_header
    (blank : message.IsBlank)
    (member : element ∈ (scope.decodePlain message window).1.elements)
    (label_eq : element.label = "ESM message container") :
    ∃ front others layout told,
      window.rest = front ++ others ∧ PlainHeader message front layout told := by
  rcases decodePlain_cases blank window with found | ⟨closed, flat, decode_eq⟩
  · exact found
  · have closed_eq : (scope.decodePlain message window).1 = closed :=
      decode_eq scope
    rw [closed_eq] at member
    exact ((flat.uncatalogued element member).label_ne label_eq).elim

theorem decodePlain_session
    (blank : message.IsBlank)
    (member : element ∈ (scope.decodePlain message window).1.elements)
    (label_eq : element.label = "ESM message container") :
    (scope.decodePlain message window).1.HoldsSession scope 4 window element := by
  obtain ⟨front, others, layout, told, shape, header⟩ := decodePlain_header blank member label_eq
  have fits : front.length ≤ window.remaining := by
    simp [Window.remaining, shape]
  have two_le := header.two_le_length
  rw [header.decodePlain_eq shape] at member ⊢
  exact (decodeBody_session header.isShipped member label_eq).of_advance fits (by omega)

/-- Unreadable octets decide nothing of their message but the value of their container. -/
theorem decodePlain_replaced
    (isPartial : scope.partiallyCiphered = true)
    (blank : message.IsBlank)
    (member : element ∈ (scope.decodePlain message window).1.elements)
    (label_eq : element.label = "ESM message container")
    (unreadable : IsUnreadable (window.portion element.contentSpan).rest)
    (otherUnreadable : IsUnreadable octets)
    (length_eq : octets.length = (window.portion element.contentSpan).remaining) :
    (scope.decodePlain message (window.replaced element.contentSpan octets)).1 =
      (scope.decodePlain message window).1.withCiphered octets := by
  obtain ⟨front, others, layout, told, shape, header⟩ := decodePlain_header blank member label_eq
  have fits : front.length ≤ window.remaining := by
    simp [Window.remaining, shape]
  rw [header.decodePlain_eq shape] at member ⊢
  obtain ⟨embeds, -, -, -, -⟩ := decodeBody_session header.isShipped member label_eq
  have inFront : window.position + front.length ≤ element.contentSpan.start := by
    have start_le := embeds.start_le
    rw [Window.advance_position] at start_le
    omega
  have farShape :
      (window.replaced element.contentSpan octets).rest =
        front ++ ((window.advance front.length).replaced element.contentSpan octets).rest := by
    rw [Window.replaced_rest inFront embeds.ordered, shape, List.take_left]
  rw [← embeds.portion_of_advance fits] at unreadable length_eq
  rw [header.decodePlain_eq farShape, Window.replaced_advance inFront embeds.ordered fits]
  exact decodeBody_replaced header.isShipped isPartial member label_eq unreadable otherUnreadable
    length_eq

end Scope

/-! ## Clear messages -/

/-- Every element of the message is clear, save a payload that is ciphered as a whole. -/
def Message.IsClear (message : Message) : Prop :=
  ∀ element ∈ message.elements, element.label = "Ciphered message" ∨ element.value.IsClear

theorem Message.IsFlat.isClear
    {message : Message}
    (flat : message.IsFlat) :
    message.IsClear := by
  intro element member
  cases flat.uncatalogued element member with
  | plain _ isPlain =>
      exact .inr (.inl isPlain)
  | ciphered _ label_eq _ =>
      exact .inl label_eq

namespace Scope

variable {scope : Scope} {message : Message} {envelope : Envelope}

theorem decodePlain_isClear
    (whole : scope.partiallyCiphered = false)
    (blank : message.IsBlank)
    (window : Window) :
    (scope.decodePlain message window).1.IsClear := by
  rcases decodePlain_cases blank window with
    ⟨front, others, layout, told, shape, header⟩ | ⟨closed, flat, decode_eq⟩
  · have entriesShipped :=
      header.isShipped.entries_isShipped scope.direction (window.advance front.length)
    have clear :=
      Catalogue.walk_isClear entriesShipped.regular (.inr whole) (window.advance front.length)
    rw [header.decodePlain_eq shape]
    exact fun element member => .inr (clear.values element member)
  · have closed_eq : (scope.decodePlain message window).1 = closed :=
      decode_eq scope
    rw [closed_eq]
    exact flat.isClear

theorem decodePayload_isClear
    (whole : scope.partiallyCiphered = false)
    (kind_ne : envelope.kind ≠ .integrityProtectedPartiallyCiphered)
    (blank : message.IsBlank)
    (window : Window) :
    (scope.decodePayload envelope message window).1.IsClear := by
  rw [decodePayload]
  split
  · exact (decodeServiceRequest_isFlat envelope blank window).isClear
  · rename_i kind_eq
    exact (kind_ne kind_eq).elim
  · split
    · rw [decodeCiphered]
      split
      · exact decodePlain_isClear whole blank _
      · have shown :
            (message.append "Ciphered message" window.remainingSpan
              (.ciphered window.rest)).IsFlat :=
          .append (.blank blank) (.ciphered window.rest rfl rfl)
        exact (shown.report .decipherFailed window.remainingSpan (by simp)).isClear
    · exact decodePlain_isClear whole blank window

end Scope

/-- Octets with a header of partial ciphering, where headers are looked for. -/
def IsPartiallyCiphered (dissectPlain : Bool) (octets : List UInt8) : Prop :=
  dissectPlain = false ∧ 8 ≤ octets.length ∧ octets.head? = some 0x57
  deriving Decidable

namespace Envelope

theorem head_of_partial
    (first : UInt8) :
    HeaderKind.ofHeaderType (first >>> 4) = .integrityProtectedPartiallyCiphered ∧
      Protocol.ofDiscriminator? (Protocol.discriminatorOf first) = some .mobilityManagement →
        first = 0x57 := by
  revert first
  exact octet_forall (by decide +kernel)

/-- Only octets with such a header have its kind of envelope. -/
theorem isPartiallyCiphered_of_kind
    {dissectPlain : Bool}
    {octets : List UInt8}
    {envelope : Envelope}
    (found : ofOctets dissectPlain octets = .ok envelope)
    (kind_eq : envelope.kind = .integrityProtectedPartiallyCiphered) :
    IsPartiallyCiphered dissectPlain octets := by
  cases octets with
  | nil =>
      cases found
  | cons first others =>
      simp only [ofOctets] at found
      split at found
      · split at found
        · cases found
          cases kind_eq
        · cases found
      · split at found
        · cases found
          cases kind_eq
        · rename_i notPlain
          simp only [not_or, leastProtectedLength, Nat.not_lt, Bool.not_eq_true] at notPlain
          split at found
          · rename_i mobility
            cases found
            obtain ⟨long, unset, -, -⟩ := notPlain
            have first_eq := head_of_partial first ⟨kind_eq, mobility⟩
            exact ⟨unset, long, congrArg some first_eq⟩
          · cases found

end Envelope

namespace Setup

variable {setup : Setup} {depth : Nat} {carriage : Carriage} {window : Window}

/-- Only a message that is partially ciphered has a value that is left ciphered. -/
theorem decodeAt_isClear
    (whole : ¬ IsPartiallyCiphered setup.config.dissectPlain window.rest) :
    (setup.decodeAt depth carriage window).IsClear := by
  cases carriage with
  | bare =>
      exact Scope.decodePlain_isClear rfl Message.empty_isBlank window
  | complete =>
      rw [decodeAt, Scope.decodeCarried]
      cases found : Envelope.ofOctets setup.config.dissectPlain window.rest with
      | error fault =>
          have read : Envelope.read setup.config.dissectPlain window = .error fault := by
            rw [Envelope.read_eq, found, Except.map]
          rw [Scope.decodeMessage_of_error read]
          exact (Message.unopened_isFlat window fault).isClear
      | ok envelope =>
          have read :
              Envelope.read setup.config.dissectPlain window =
                .ok (envelope, window.advance envelope.kind.octetCount) := by
            rw [Envelope.read_eq, found, Except.map]
          rw [Scope.decodeMessage_of_ok read]
          exact Scope.decodePayload_isClear rfl
            (fun kind_eq => whole (Envelope.isPartiallyCiphered_of_kind found kind_eq))
            ⟨rfl, rfl⟩ _

end Setup

/-! ## Partially ciphered messages -/

namespace SecurityHeader

/-- Octets with the header type of partial ciphering start with such a header. -/
theorem exists_partial
    {octets : List UInt8}
    (first_eq : octets.head? = some 0x57)
    (long : 8 ≤ octets.length) :
    ∃ (header : SecurityHeader) (payload : List UInt8),
      header.headerType = 5 ∧ 2 ≤ payload.length ∧ octets = header.octets ++ payload := by
  obtain ⟨first, a, b, c, d, sequenceNumber, payload, rfl⟩ :
      ∃ first a b c d sequenceNumber payload,
        octets = first :: a :: b :: c :: d :: sequenceNumber :: payload := by
    match octets, long with
    | first :: a :: b :: c :: d :: sequenceNumber :: payload, _ =>
        exact ⟨first, a, b, c, d, sequenceNumber, payload, rfl⟩
  obtain rfl := Option.some.inj first_eq
  have first_eq : (0x57 : UInt8) = (5 : UInt8) <<< 4 ||| 0x07 := by
    decide
  refine ⟨⟨5, #v[a, b, c, d], sequenceNumber⟩, payload, rfl, ?_, by simp [octets, first_eq]⟩
  simp only [List.length_cons] at long
  omega

variable {header : SecurityHeader} {payload : List UInt8} {setup : Setup} {window : Window}

/-- Behind the header the message is decoded as a partially ciphered one. -/
theorem decodeAt_of_partial
    (isPartial : header.headerType = 5)
    (unset : setup.config.dissectPlain = false)
    (long : 2 ≤ payload.length)
    (shape : window.rest = header.octets ++ payload)
    (depth : Nat) :
    setup.decodeAt depth .complete window =
      ({ setup.scope depth with partiallyCiphered := true }.decodePlain header.message
        (window.advance 6)).1 := by
  have wraps : header.Wraps := by
    rw [Wraps, isPartial]
    decide
  have kind_eq : header.envelope.kind = .integrityProtectedPartiallyCiphered := by
    rw [envelope, kind, isPartial]
    rfl
  have unset : (setup.scope depth).config.dissectPlain = false :=
    unset
  have read :
      Envelope.read (setup.scope depth).config.dissectPlain window =
        .ok (header.envelope, window.advance 6) := by
    rw [Envelope.read_eq, unset, shape, ofOctets_eq wraps long, Except.map, kind_eq]
    rfl
  rw [Setup.decodeAt, Scope.decodeCarried, Scope.decodeMessage_of_ok read, Scope.decodePayload]
  split
  · rename_i other
    rw [kind_eq] at other
    cases other
  · rfl
  · rename_i notPartial
    exact (notPartial kind_eq).elim

end SecurityHeader

namespace Setup

variable {setup : Setup} {depth : Nat} {window : Window} {element : Element}

/-- The container of a session message in a partially ciphered message. -/
theorem decodeAt_session
    (isPartial : IsPartiallyCiphered setup.config.dissectPlain window.rest)
    (member : element ∈ (setup.decodeAt depth .complete window).elements)
    (label_eq : element.label = "ESM message container") :
    (setup.decodeAt depth .complete window).HoldsSession
        { setup.scope depth with partiallyCiphered := true } 10 window element ∧
      ∀ octets,
        IsUnreadable (window.portion element.contentSpan).rest →
        IsUnreadable octets →
        octets.length = (window.portion element.contentSpan).remaining →
          setup.decodeAt depth .complete (window.replaced element.contentSpan octets) =
            (setup.decodeAt depth .complete window).withCiphered octets := by
  obtain ⟨unset, long, first_eq⟩ := isPartial
  obtain ⟨header, payload, isPartial, payloadLong, shape⟩ :=
    SecurityHeader.exists_partial first_eq long
  have blank : header.message.IsBlank :=
    ⟨rfl, rfl⟩
  have fits : 6 ≤ window.remaining :=
    Nat.le_trans (by decide) long
  rw [SecurityHeader.decodeAt_of_partial isPartial unset payloadLong shape] at member ⊢
  have holds := Scope.decodePlain_session blank member label_eq
  refine ⟨holds.of_advance fits (by decide), fun octets unreadable otherUnreadable length_eq => ?_⟩
  have portion_eq := holds.embeds.portion_of_advance fits
  have inFront : window.position + 6 ≤ element.contentSpan.start := by
    have start_le := holds.embeds.start_le
    rw [Window.advance_position] at start_le
    omega
  -- the header stays in front, and the rest of the payload behind it
  have farShape :
      (window.replaced element.contentSpan octets).rest =
        header.octets ++ ((window.advance 6).replaced element.contentSpan octets).rest := by
    rw [Window.replaced_rest inFront holds.embeds.ordered, shape, ← SecurityHeader.octets_length,
      List.take_left]
  rw [← portion_eq] at unreadable length_eq
  have span_length :
      octets.length = element.contentSpan.stop - element.contentSpan.start := by
    rw [length_eq, holds.remaining_eq]
  have farLong : 2 ≤ ((window.advance 6).replaced element.contentSpan octets).rest.length := by
    have start_le := Nat.le_trans (Nat.le_add_right _ 4) holds.embeds.start_le
    have remaining_eq :=
      Window.replaced_remaining start_le holds.embeds.ordered holds.embeds.stop_le span_length
    rw [Window.remaining, Window.remaining, Window.advance_rest] at remaining_eq
    rw [remaining_eq, List.length_drop]
    exact Nat.le_sub_of_add_le' long
  rw [SecurityHeader.decodeAt_of_partial isPartial unset farLong farShape,
    Window.replaced_advance inFront holds.embeds.ordered fits]
  exact Scope.decodePlain_replaced rfl blank member label_eq unreadable otherUnreadable length_eq

/-- A container that can be read is entered below the limit, and left as it is at the limit. -/
theorem sessionMessage_of_readable
    (setup : Setup)
    (depth : Nat)
    {content : Window}
    (readable : ¬ IsUnreadable content.rest) :
    ElementValue.sessionMessage { setup.scope depth with partiallyCiphered := true } content =
      if depth < setup.config.maxNestingDepth then
        ⟨.ok (.message (setup.decodeAt (depth + 1) .bare content),
          ((setup.scope (depth + 1)).decodeCarried content .bare).2), [], none⟩
      else
        ⟨.ok (.octets content.rest, content.exhaust),
          [⟨.nestingLimit setup.config.maxNestingDepth, content.remainingSpan⟩], none⟩ := by
  let inner : Scope := { setup.scope depth with partiallyCiphered := true }
  have nested_eq := setup.scope_nested depth .bare content
  rw [LteNas.sessionMessage_of_readable readable]
  split
  · rename_i below
    rw [if_pos below] at nested_eq
    have entered :
        inner.nested .bare content =
          some ((setup.scope (depth + 1)).decodeCarried content .bare) :=
      nested_eq
    exact ElementValue.carriedMessage_of_some entered
  · rename_i reached
    rw [if_neg reached] at nested_eq
    have refused : inner.nested .bare content = none :=
      nested_eq
    exact ElementValue.carriedMessage_of_none refused

end Setup

/--
Inside a partially ciphered message, at any depth, the container of a session
message is left ciphered if it cannot be read, which is the only thing that is
reported of it, and then it decides nothing but its own value; otherwise it is
entered, or left as it is where that would be too deep.  In every other message
nothing is left ciphered but a payload that is ciphered as a whole.
-/
theorem sessionContainer_isOpaque
    (config : Config)
    (direction : Direction)
    (depth : Nat)
    (window : Window) :
    let setup := Setup.ofConfig config direction
    let message := setup.decodeAt depth .complete window
    (IsPartiallyCiphered config.dissectPlain window.rest →
      ∀ element ∈ message.elements, element.label = "ESM message container" →
        let content := window.portion element.contentSpan
        element.Embeds 10 window ∧
          (IsUnreadable content.rest →
            element.value = .ciphered content.rest ∧
              undeciphered message.diagnostics = [element.contentSpan] ∧
              ∀ octets, IsUnreadable octets → octets.length = content.remaining →
                setup.decodeAt depth .complete (window.replaced element.contentSpan octets) =
                  message.withCiphered octets) ∧
          (¬ IsUnreadable content.rest →
            undeciphered message.diagnostics = [] ∧
              if depth < config.maxNestingDepth then
                element.value = .message (setup.decodeAt (depth + 1) .bare content)
              else
                element.value = .octets content.rest ∧
                  ⟨.nestingLimit config.maxNestingDepth, element.contentSpan⟩ ∈
                    message.diagnostics)) ∧
      (¬ IsPartiallyCiphered config.dissectPlain window.rest →
        ∀ element ∈ message.elements,
          element.label = "Ciphered message" ∨ element.value.IsClear) := by
  intro setup message
  constructor
  case right =>
    intro whole
    have whole : ¬ IsPartiallyCiphered setup.config.dissectPlain window.rest :=
      whole
    exact Setup.decodeAt_isClear whole
  intro isPartial element member label_eq
  obtain ⟨holds, replaced⟩ := Setup.decodeAt_session isPartial member label_eq
  intro content
  have value_eq := holds.value_eq
  have undeciphered_eq := holds.undeciphered_eq
  have reported := holds.reported
  have span_eq : content.remainingSpan = element.contentSpan :=
    holds.contentSpan_eq
  dsimp only at value_eq
  refine ⟨holds.embeds, fun unreadable => ?_, fun readable => ?_⟩
  · rw [sessionMessage_of_unreadable rfl unreadable] at value_eq undeciphered_eq
    refine ⟨value_eq, ?_, fun octets => replaced octets unreadable⟩
    rw [undeciphered_eq, span_eq]
    rfl
  · have reading_eq := setup.sessionMessage_of_readable depth readable
    by_cases below : depth < config.maxNestingDepth
    · have within : depth < setup.config.maxNestingDepth := below
      rw [if_pos within] at reading_eq
      rw [reading_eq] at value_eq undeciphered_eq
      rw [if_pos below]
      exact ⟨undeciphered_eq, value_eq⟩
    · have beyond : ¬ depth < setup.config.maxNestingDepth := below
      rw [if_neg beyond] at reading_eq
      rw [reading_eq] at value_eq undeciphered_eq reported
      rw [if_neg below, ← span_eq]
      exact ⟨undeciphered_eq, value_eq, reported _ (List.mem_singleton_self _)⟩

/--
A completed attach with three octets in its container, in which no message or a
message starts, or which is not partially ciphered.
-/
theorem sessionContainer_isOpaque_attachComplete :
    let attachComplete (headerType : UInt8) (content : List UInt8) : Window :=
      .ofOctets
        ([headerType, 0x0A, 0x0B, 0x0C, 0x0D, 0x05, 0x07, 0x43, 0x00, 0x03] ++ content) 0
    let setup := Setup.ofConfig .standard .uplink
    let unreadable := attachComplete 0x57 [0xAA, 0xBB, 0xCC]
    let readable := attachComplete 0x57 [0x52, 0x01, 0xC2]
    let container (value : Value) : Element :=
      ⟨none, "ESM message container", ⟨8, 13⟩, value⟩
    (container (.ciphered [0xAA, 0xBB, 0xCC]) ∈ (setup.decodeAt 0 .complete unreadable).elements ∧
        undeciphered (setup.decodeAt 0 .complete unreadable).diagnostics = [⟨10, 13⟩] ∧
        setup.decodeAt 0 .complete (unreadable.replaced ⟨10, 13⟩ [0xDD, 0xEE, 0xFF]) =
          (setup.decodeAt 0 .complete unreadable).withCiphered [0xDD, 0xEE, 0xFF]) ∧
      (∀ element ∈ (setup.decodeAt 0 .complete readable).elements,
        element.value = .message (setup.decodeAt 1 .bare (readable.portion ⟨10, 13⟩))) ∧
      ∀ element ∈ (setup.decodeAt 0 .complete (attachComplete 0x17 [0xAA, 0xBB, 0xCC])).elements,
        element.label = "Ciphered message" ∨ element.value.IsClear := by
  intro attachComplete setup unreadable readable container
  refine ⟨?_, ?_, ?_⟩
  · have member :
        container (.ciphered [0xAA, 0xBB, 0xCC]) ∈
          (setup.decodeAt 0 .complete unreadable).elements :=
      List.mem_singleton_self _
    have isPartial : IsPartiallyCiphered false unreadable.rest := by
      decide
    obtain ⟨-, isOpaque, -⟩ :=
      (sessionContainer_isOpaque .standard .uplink 0 unreadable).1 isPartial _ member rfl
    obtain ⟨-, reported, replaced⟩ := isOpaque (by decide)
    exact ⟨member, reported, replaced [0xDD, 0xEE, 0xFF] (by decide) rfl⟩
  · have isPartial : IsPartiallyCiphered false readable.rest := by
      decide
    have elements_eq :
        (setup.decodeAt 0 .complete readable).elements =
          [container (.message (setup.decodeAt 1 .bare (readable.portion ⟨10, 13⟩)))] := by
      rfl
    intro element member
    have isContainer := member
    rw [elements_eq] at isContainer
    obtain rfl := List.mem_singleton.mp isContainer
    obtain ⟨-, -, isEntered⟩ :=
      (sessionContainer_isOpaque .standard .uplink 0 readable).1 isPartial _ member rfl
    exact (isEntered (by decide)).2
  · exact
      (sessionContainer_isOpaque .standard .uplink 0 (attachComplete 0x17 [0xAA, 0xBB, 0xCC])).2
        (by decide)

end LteNas
