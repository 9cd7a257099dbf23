import LteNas.Decode
import LteNas.Proofs.Catalogue.Shipped
import LteNas.Proofs.Cipher.Payload
import LteNas.Proofs.Element.Moving
import LteNas.Proofs.Envelope

namespace LteNas

/-!
# Messages further on

A message is decoded twice, from the same octets further on and perhaps deeper
inside others.  Each step of the decoder finds the same message, displaced, and
inside the range that it was given.  The steps are then tied into a knot by
induction on the levels that may still be entered: what is nested agrees because
the scopes of one level less are aligned.
-/

/-- Nothing that lies anywhere has been found yet. -/
structure Message.IsBlank (message : Message) : Prop where
  elements_eq : message.elements = []
  diagnostics_eq : message.diagnostics = []

theorem Message.empty_isBlank :
    Message.empty.IsBlank :=
  ⟨rfl, rfl⟩

namespace Message.Agree

variable {move : Displacement} {span : Span} {near far : Message}

theorem blank
    {message : Message}
    (isBlank : message.IsBlank) :
    Message.Agree move span message message where
  within := by
    rw [Message.within_iff, isBlank.elements_eq, isBlank.diagnostics_eq]
    simp [DiagnosticsWithin]
  far_eq := by
    rcases message with ⟨_, _, _, _, _, _, _, _⟩
    obtain ⟨rfl, rfl⟩ := isBlank
    rw [Message.displace_eq]
    rfl

theorem report
    {kind : DiagnosticKind}
    {own : Span}
    (agree : Message.Agree move span near far)
    (ownWithin : own.Within span)
    (kind_eq : kind.displace move = kind) :
    Message.Agree move span (near.report kind own) (far.report kind (own.displace move)) where
  within := by
    obtain ⟨elements, diagnostics⟩ := Message.within_iff.mp agree.within
    refine Message.within_iff.mpr ⟨elements, ?_⟩
    refine List.forall_mem_append.mpr ⟨diagnostics, ?_⟩
    simpa using ownWithin
  far_eq := by
    rw [agree.far_eq, Message.displace_eq, Message.displace_eq]
    simp [Message.report, Diagnostic.displace, kind_eq]

theorem append
    {label : String}
    {own : Span}
    {value : Value}
    (agree : Message.Agree move span near far)
    (ownWithin : own.Within span)
    (valueWithin : value.Within own)
    (value_eq : value.displace move = value) :
    Message.Agree move span
      (near.append label own value)
      (far.append label (own.displace move) value) where
  within := by
    obtain ⟨elements, diagnostics⟩ := Message.within_iff.mp agree.within
    refine Message.within_iff.mpr ⟨?_, diagnostics⟩
    refine List.forall_mem_append.mpr ⟨elements, ?_⟩
    simpa using And.intro ownWithin valueWithin
  far_eq := by
    rw [agree.far_eq, Message.displace_eq, Message.displace_eq]
    simp [Message.append, Element.displace, value_eq]

end Message.Agree

/-- A finding about the first octets of a window. -/
theorem Message.Agree.reportStart
    {move : Displacement}
    {span : Span}
    {nearMessage farMessage : Message}
    {near far : Window}
    {kind : DiagnosticKind}
    {count : Nat}
    (agree : Message.Agree move span nearMessage farMessage)
    (moved : near.Moved move far)
    (inside : near.remainingSpan.Within span)
    (fits : count ≤ near.remaining)
    (kind_eq : kind.displace move = kind) :
    Message.Agree move span
      (nearMessage.report kind ⟨near.position, near.position + count⟩)
      (farMessage.report kind ⟨far.position, far.position + count⟩) := by
  rw [moved.start_eq count]
  exact agree.report ((near.start_within fits).trans inside) kind_eq

/-! ## Plain messages -/

/-- The layout is that of a message of one of the two protocols. -/
def MessageLayout.IsShipped (layout : MessageLayout) : Prop :=
  (∃ message : MobilityMessage, layout = ⟨message.name, message.body⟩) ∨
    ∃ message : SessionMessage, layout = ⟨message.name, message.body⟩

/-- The entries that a message is walked with belong to a catalogue of messages. -/
theorem MessageLayout.IsShipped.entries_isShipped
    {layout : MessageLayout}
    (shipped : layout.IsShipped)
    (direction : Direction)
    (window : Window) :
    (layout.body.entries direction window).IsShipped := by
  have member := layout.body.entries_mem_catalogues direction window
  rcases shipped with ⟨message, rfl⟩ | ⟨message, rfl⟩
  · exact .inl ⟨message, member⟩
  · exact .inr ⟨message, member⟩

theorem MobilityMessage.layout?_isShipped
    {code : UInt8}
    {layout : MessageLayout}
    (found : MobilityMessage.layout? code = some layout) :
    layout.IsShipped := by
  obtain ⟨message, -, rfl⟩ := Option.map_eq_some_iff.mp found
  exact .inl ⟨message, rfl⟩

theorem SessionMessage.layout?_isShipped
    {code : UInt8}
    {layout : MessageLayout}
    (found : SessionMessage.layout? code = some layout) :
    layout.IsShipped := by
  obtain ⟨message, -, rfl⟩ := Option.map_eq_some_iff.mp found
  exact .inr ⟨message, rfl⟩

/-- Which entries a body is walked with is decided by the unread octets. -/
theorem MessageBody.entries_moved
    {move : Displacement}
    {near far : Window}
    (body : MessageBody)
    (direction : Direction)
    (moved : near.Moved move far) :
    body.entries direction far = body.entries direction near := by
  have length_eq : far.hasUplinkDetachLength = near.hasUplinkDetachLength := by
    rw [Window.hasUplinkDetachLength, Window.hasUplinkDetachLength, Window.peekAt?,
      Window.peekAt?, moved.rest_eq, moved.remaining_eq]
  cases body with
  | catalogue entries =>
      rfl
  | byDirection uplink downlink =>
      cases direction with
      | uplink =>
          rfl
      | downlink =>
          rfl
      | unknown =>
          rw [entries, entries, length_eq]

namespace Scope

section Steps

variable {move : Displacement} {span : Span} {scope farScope : Scope}
variable {near far : Window} {message : Message}

theorem decodeBody_agree
    {layout : MessageLayout}
    (shipped : layout.IsShipped)
    (aligned : scope.Aligned move farScope)
    (moved : near.Moved move far)
    (inside : near.remainingSpan.Within span) :
    Message.Agree move span
      (scope.decodeBody layout message near).1
      (farScope.decodeBody layout message far).1 := by
  have entries_eq :
      layout.body.entries farScope.direction far = layout.body.entries scope.direction near := by
    rw [aligned.direction_eq]
    exact layout.body.entries_moved scope.direction moved
  have regular : (layout.body.entries scope.direction near).Regular :=
    (shipped.entries_isShipped scope.direction near).regular
  have walks := Catalogue.walk_agree regular aligned moved inside
  rw [decodeBody, decodeBody, MessageBody.walk, MessageBody.walk, entries_eq]
  refine ⟨?_, ?_⟩
  · exact Message.within_iff.mpr
      ⟨elementsWithin_iff.mp walks.elements_within, walks.diagnostics_within⟩
  · rw [Message.displace_eq]
    simp only [walks.elements_eq, walks.diagnostics_eq]

theorem decodeTyped_agree
    {layout? : UInt8 → Option MessageLayout}
    (shipped : ∀ code layout, layout? code = some layout → layout.IsShipped)
    (blank : message.IsBlank)
    (aligned : scope.Aligned move farScope)
    (moved : near.Moved move far)
    (inside : near.remainingSpan.Within span) :
    Message.Agree move span
      (scope.decodeTyped layout? message near).1
      (farScope.decodeTyped layout? message far).1 := by
  cases shape : near.rest with
  | nil =>
      simp only [decodeTyped, Window.octet_of_nil shape,
        Window.octet_of_nil (moved.rest_eq.trans shape)]
      apply Message.Agree.reportStart (.blank blank) moved inside (Nat.zero_le _)
      rfl
  | cons code others =>
      have fits : 1 ≤ near.remaining := by
        simp [Window.remaining, shape]
      simp only [decodeTyped, Window.octet_of_cons shape,
        Window.octet_of_cons (moved.rest_eq.trans shape)]
      have typed : Message.IsBlank { message with messageType := some code } :=
        ⟨blank.1, blank.2⟩
      cases found : layout? code with
      | none =>
          apply Message.Agree.reportStart (.blank typed) moved inside fits
          rfl
      | some layout =>
          exact decodeBody_agree (shipped code layout found) aligned (moved.advance 1)
            ((near.advance_within fits).trans inside)

theorem decodeSession_agree
    (blank : message.IsBlank)
    (aligned : scope.Aligned move farScope)
    (moved : near.Moved move far)
    (inside : near.remainingSpan.Within span) :
    Message.Agree move span
      (scope.decodeSession message near).1
      (farScope.decodeSession message far).1 := by
  cases shape : near.rest with
  | nil =>
      simp only [decodeSession, Window.octet_of_nil shape,
        Window.octet_of_nil (moved.rest_eq.trans shape)]
      apply Message.Agree.reportStart (.blank blank) moved inside (Nat.zero_le _)
      rfl
  | cons transaction others =>
      have fits : 1 ≤ near.remaining := by
        simp [Window.remaining, shape]
      simp only [decodeSession, Window.octet_of_cons shape,
        Window.octet_of_cons (moved.rest_eq.trans shape)]
      exact decodeTyped_agree (fun _ _ => SessionMessage.layout?_isShipped)
        ⟨blank.1, blank.2⟩ aligned (moved.advance 1)
        ((near.advance_within fits).trans inside)

theorem takeTestMessage_agree
    (blank : message.IsBlank)
    (moved : near.Moved move far)
    (inside : near.remainingSpan.Within span) :
    Message.Agree move span
      (takeTestMessage message near).1
      (takeTestMessage message far).1 := by
  simp only [takeTestMessage, moved.remainingSpan_eq, moved.rest_eq]
  refine Message.Agree.append (.blank ⟨blank.1, blank.2⟩) inside ?_ ?_
  · trivial
  · rfl

theorem decodePlain_agree
    (blank : message.IsBlank)
    (aligned : scope.Aligned move farScope)
    (moved : near.Moved move far)
    (inside : near.remainingSpan.Within span) :
    Message.Agree move span
      (scope.decodePlain message near).1
      (farScope.decodePlain message far).1 := by
  cases shape : near.rest with
  | nil =>
      simp only [decodePlain, Window.peek?, shape, moved.rest_eq.trans shape,
        List.head?_nil]
      apply Message.Agree.reportStart (.blank blank) moved inside (Nat.zero_le _)
      rfl
  | cons first others =>
      have fits : 1 ≤ near.remaining := by
        simp [Window.remaining, shape]
      have behind := (near.advance_within fits).trans inside
      simp only [decodePlain, Window.peek?, shape, moved.rest_eq.trans shape, List.head?_cons]
      split
      · exact decodeSession_agree ⟨blank.1, blank.2⟩ aligned (moved.advance 1) behind
      · exact decodeTyped_agree (fun _ _ => MobilityMessage.layout?_isShipped)
          ⟨blank.1, blank.2⟩ aligned (moved.advance 1) behind
      · exact takeTestMessage_agree ⟨blank.1, blank.2⟩ moved inside
      · have known :
            Message.IsBlank { message with discriminator := Protocol.discriminatorOf first } :=
          ⟨blank.1, blank.2⟩
        apply Message.Agree.reportStart (.blank known) moved inside fits
        rfl

/-! ## Protected messages -/

/-- A service request with its two elements, which starts at an offset. -/
def serviceRequestAt
    (envelope : Envelope)
    (message : Message)
    (start : Nat) :
    Message :=
  { message with name := some serviceRequestName }
    |>.append "KSI and sequence number" ⟨start + 1, start + 2⟩
        (.fields
          [ numberField "KSI" (envelope.keySet.getD 0).toNat,
            numberField "Sequence number (short)" (envelope.sequenceNumber.getD 0).toNat ])
    |>.append "Message authentication code (short)" ⟨start + 2, start + 4⟩
        (.number (envelope.authenticationCode.getD 0))

theorem decodeServiceRequest_eq
    (envelope : Envelope)
    (message : Message)
    (window : Window) :
    decodeServiceRequest envelope message window =
      let shown := serviceRequestAt envelope message (window.position - 4)
      if window.isEmpty then
        (shown, window)
      else
        (shown.report .extraneousData window.remainingSpan, window.exhaust) :=
  rfl

theorem serviceRequestAt_agree
    (envelope : Envelope)
    (blank : message.IsBlank)
    (moved : near.Moved move far)
    (inside : near.remainingSpan.Within span)
    (fits : 4 ≤ near.remaining) :
    Message.Agree move span
      (serviceRequestAt envelope message near.position)
      (serviceRequestAt envelope message far.position) := by
  have named : Message.IsBlank { message with name := some serviceRequestName } :=
    ⟨blank.1, blank.2⟩
  have whole := (near.start_within fits).trans inside
  have part {first last : Nat} (ordered : first ≤ last) (least : last ≤ 4) :
      (⟨near.position + first, near.position + last⟩ : Span).Within span := by
    constructor
    · exact Nat.le_trans whole.start_le (Nat.le_add_right _ _)
    · exact Nat.add_le_add_left ordered _
    · exact Nat.le_trans (Nat.add_le_add_left least _) whole.stop_le
  have part_eq (first last : Nat) :
      (⟨far.position + first, far.position + last⟩ : Span) =
        Span.displace move ⟨near.position + first, near.position + last⟩ := by
    rw [Span.displace, moved.position_eq]
    simp only [Nat.add_right_comm]
  rw [serviceRequestAt, serviceRequestAt, part_eq 1 2, part_eq 2 4]
  refine Message.Agree.append ?_ (part (by omega) (by omega)) trivial rfl
  refine Message.Agree.append (.blank named) (part (by omega) (by omega)) ?_ rfl
  exact ⟨trivial, trivial, trivial⟩

theorem decodeServiceRequest_agree
    (envelope : Envelope)
    (blank : message.IsBlank)
    (moved : near.Moved move far)
    (inside : near.remainingSpan.Within span)
    (fits : 4 ≤ near.remaining) :
    Message.Agree move span
      (decodeServiceRequest envelope message (near.advance 4)).1
      (decodeServiceRequest envelope message (far.advance 4)).1 := by
  have behind := moved.advance 4
  have empty_eq : (far.advance 4).isEmpty = (near.advance 4).isEmpty := by
    rw [Window.isEmpty, behind.rest_eq, Window.isEmpty]
  have start_eq (window : Window) : (window.advance 4).position - 4 = window.position := by
    rw [Window.advance_position, Nat.add_sub_cancel]
  have shown := serviceRequestAt_agree envelope blank moved inside fits
  simp only [decodeServiceRequest_eq, empty_eq, start_eq]
  by_cases finished : (near.advance 4).isEmpty = true
  · rw [if_pos finished, if_pos finished]
    exact shown
  · rw [if_neg finished, if_neg finished, behind.remainingSpan_eq]
    exact shown.report ((near.advance_within fits).trans inside) rfl

theorem decodeCiphered_agree
    (envelope : Envelope)
    (blank : message.IsBlank)
    (aligned : scope.Aligned move farScope)
    (moved : near.Moved move far)
    (inside : near.remainingSpan.Within span) :
    Message.Agree move span
      (scope.decodeCiphered envelope message near).1
      (farScope.decodeCiphered envelope message far).1 := by
  have cipher_eq : farScope.payloadCipher envelope = scope.payloadCipher envelope := by
    rw [payloadCipher, payloadCipher, aligned.key_eq, aligned.direction_eq, aligned.config_eq]
  rw [decodeCiphered, decodeCiphered, cipher_eq, moved.rest_eq]
  cases found : (scope.payloadCipher envelope).decipher? near.rest with
  | none =>
      simp only [moved.remainingSpan_eq]
      refine Message.Agree.report ?_ inside rfl
      exact (Message.Agree.blank blank).append inside trivial rfl
  | some plain =>
      have plain_length : plain.length = near.remaining :=
        PayloadCipher.decipher?_length found
      have plainMoved :
          (Window.ofOctets plain near.position).Moved move
            (Window.ofOctets plain far.position) :=
        ⟨moved.position_eq, rfl⟩
      have plainSpan_eq :
          (Window.ofOctets plain near.position).remainingSpan = near.remainingSpan := by
        simp [Window.remainingSpan, Window.stop, Window.remaining, plain_length]
      exact decodePlain_agree blank aligned plainMoved (plainSpan_eq ▸ inside)

theorem decodePayload_agree
    {envelope : Envelope}
    (blank : message.IsBlank)
    (aligned : scope.Aligned move farScope)
    (moved : near.Moved move far)
    (inside : near.remainingSpan.Within span)
    (fits : envelope.kind.octetCount ≤ near.remaining) :
    Message.Agree move span
      (scope.decodePayload envelope message (near.advance envelope.kind.octetCount)).1
      (farScope.decodePayload envelope message (far.advance envelope.kind.octetCount)).1 := by
  have behindMoved := moved.advance envelope.kind.octetCount
  have behindInside := (near.advance_within fits).trans inside
  rw [decodePayload, decodePayload]
  split
  · rename_i kind_eq
    rw [kind_eq] at fits ⊢
    exact decodeServiceRequest_agree envelope blank moved inside fits
  · refine decodePlain_agree blank ?_ behindMoved behindInside
    exact
      { key_eq := aligned.key_eq
        direction_eq := aligned.direction_eq
        config_eq := aligned.config_eq
        partiallyCiphered_eq := rfl
        containerType_eq := aligned.containerType_eq
        nested := aligned.nested }
  · split
    · exact decodeCiphered_agree envelope blank aligned behindMoved behindInside
    · exact decodePlain_agree blank aligned behindMoved behindInside

theorem decodeMessage_agree
    (aligned : scope.Aligned move farScope)
    (moved : near.Moved move far)
    (inside : near.remainingSpan.Within span) :
    Message.Agree move span
      (scope.decodeMessage near).1
      (farScope.decodeMessage far).1 := by
  have dissect_eq : farScope.config.dissectPlain = scope.config.dissectPlain := by
    rw [aligned.config_eq]
  have empty_eq : far.isEmpty = near.isEmpty := by
    rw [Window.isEmpty, moved.rest_eq, Window.isEmpty]
  simp only [decodeMessage, Envelope.read_eq, dissect_eq, moved.rest_eq, empty_eq]
  cases found : Envelope.ofOctets scope.config.dissectPlain near.rest with
  | ok envelope =>
      exact decodePayload_agree ⟨rfl, rfl⟩ aligned moved inside
        (Envelope.octetCount_le found)
  | error fault =>
      cases fault with
      | wrongProtocol discriminator headerType =>
          have fits : 1 ≤ near.remaining := by
            rw [Window.remaining, Nat.one_le_iff_ne_zero, Ne, List.length_eq_zero_iff]
            intro nothing
            rw [nothing] at found
            cases found
          simp only [Except.map]
          apply Message.Agree.reportStart (.blank ⟨rfl, rfl⟩) moved inside fits
          rfl
      | truncated shortage =>
          simp only [Except.map, moved.remainingSpan_eq]
          refine (Message.Agree.blank Message.empty_isBlank).report inside ?_
          split <;> rfl

theorem decodeCarried_agree
    (carriage : Carriage)
    (aligned : scope.Aligned move farScope)
    (moved : near.Moved move far)
    (inside : near.remainingSpan.Within span) :
    Message.Agree move span
      (scope.decodeCarried near carriage).1
      (farScope.decodeCarried far carriage).1 := by
  cases carriage with
  | complete =>
      exact decodeMessage_agree aligned moved inside
  | bare =>
      exact decodePlain_agree Message.empty_isBlank aligned moved inside

end Steps

end Scope

/-! ## Nesting -/

/-- Two setups agree but for the levels that may be entered. -/
structure Setup.Aligned
    (move : Displacement)
    (near far : Setup) :
    Prop where
  key_eq : far.key = near.key
  direction_eq : far.direction = near.direction
  config_eq :
    far.config =
      { near.config with maxNestingDepth := near.config.maxNestingDepth + move.levels }

namespace Setup.Aligned

variable {move : Displacement} {near far : Setup}

/-- Setups that agree give fresh scopes that agree, if what is nested does. -/
theorem freshScope
    {nearNested farNested : Carriage → Window → Option (Message × Window)}
    (aligned : near.Aligned move far)
    (nested : ∀ carriage window,
      Option.Rel
        (fun message other => Message.Agree move window.remainingSpan message.1 other.1)
        (nearNested carriage window) (farNested carriage (window.displace move)))
    (nearDepth farDepth : Nat) :
    (near.freshScope nearNested nearDepth).Aligned move
      (far.freshScope farNested farDepth) where
  key_eq := aligned.key_eq
  direction_eq := aligned.direction_eq
  config_eq := aligned.config_eq
  partiallyCiphered_eq := rfl
  containerType_eq := rfl
  nested := nested

/-- Inside a message, the same octets further on hold the same message. -/
theorem decodeNested
    (aligned : near.Aligned move far)
    (levels nearDepth farDepth : Nat)
    (carriage : Carriage)
    (window : Window) :
    Option.Rel
      (fun message other => Message.Agree move window.remainingSpan message.1 other.1)
      (near.decodeNested levels nearDepth carriage window)
      (far.decodeNested levels farDepth carriage (window.displace move)) := by
  induction levels generalizing nearDepth farDepth carriage window with
  | zero =>
      exact .none
  | succ levels inductionHypothesis =>
      have scopes :=
        aligned.freshScope
          (inductionHypothesis (nearDepth + 1) (farDepth + 1)) (nearDepth + 1) (farDepth + 1)
      exact .some
        (Scope.decodeCarried_agree carriage scopes (window.moved_displace move)
          window.remainingSpan_within_self)

/-- The scopes of a message agree when the far one is as much deeper as it may be. -/
theorem scope
    (aligned : near.Aligned move far)
    (depth : Nat) :
    (near.scope depth).Aligned move (far.scope (depth + move.levels)) := by
  have levels_eq :
      far.config.maxNestingDepth - (depth + move.levels) =
        near.config.maxNestingDepth - depth := by
    rw [aligned.config_eq]
    exact Nat.add_sub_add_right _ _ _
  rw [Setup.scope, Setup.scope, levels_eq]
  exact aligned.freshScope (aligned.decodeNested _ _ _) depth (depth + move.levels)

end Setup.Aligned

end LteNas
