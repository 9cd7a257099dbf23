import LteNas.Proofs.Decode.PlainHeader

namespace LteNas

/-!
# What a message comes to

The octets of a message decide what is left of it when its headers have been
read: either nothing, or a body whose elements are found by a walk.  Only the
walk consults the messages that may be nested, so what is proved about nesting
is proved about walks, and this is the one place that follows the decoder
through its headers.
-/

/-! ## Openings -/

/-- What is left of a message behind its headers. -/
inductive Opening where
  /-- Nothing is: the message is complete. -/
  | closed (message : Message)
  /-- A body, whose elements belong to the message that the headers tell of. -/
  | body (layout : MessageLayout) (header : Message) (window : Window)

namespace Opening

/-- The whole message, its body being decoded in a scope. -/
def finish (scope : Scope) : Opening → Message
  | .closed message => message
  | .body layout header window => (scope.decodeBody layout header window).1

/-- A complete message is flat, and a body stands behind so many octets of a window at least. -/
def Fits (least : Nat) (window : Window) : Opening → Prop
  | .closed message =>
      message.IsFlat
  | .body layout header behind =>
      layout.IsShipped ∧ header.IsBlank ∧
        ∃ count, least ≤ count ∧ count ≤ window.remaining ∧ behind = window.advance count

end Opening

/-- Whatever the scope, decoding comes to one opening. -/
def Opens
    (least : Nat)
    (window : Window)
    (decode : Scope → Message) :
    Prop :=
  ∃ opening : Opening,
    opening.Fits least window ∧ ∀ scope, decode scope = opening.finish scope

/-! ## Plain messages -/

namespace Scope

variable {message : Message} {window : Window}

/-- A body of a plain message stands behind two octets at least. -/
theorem decodePlain_opens
    (blank : message.IsBlank)
    (window : Window) :
    Opens 2 window fun scope => (scope.decodePlain message window).1 := by
  rcases decodePlain_cases blank window with
    ⟨front, behind, layout, told, shape, header⟩ | ⟨closed, flat, decode_eq⟩
  · refine ⟨.body layout told (window.advance front.length), ?_, header.decodePlain_eq shape⟩
    have fits : front.length ≤ window.remaining := by
      simp [Window.remaining, shape]
    exact ⟨header.isShipped, header.isBlank blank, front.length, header.two_le_length, fits, rfl⟩
  · exact ⟨.closed closed, flat, decode_eq⟩

/-! ## Protected messages -/

theorem decodeServiceRequest_isFlat
    (envelope : Envelope)
    (blank : message.IsBlank)
    (window : Window) :
    (decodeServiceRequest envelope message window).1.IsFlat := by
  have named : Message.IsBlank { message with name := some serviceRequestName } :=
    ⟨blank.1, blank.2⟩
  have shown (start : Nat) : (serviceRequestAt envelope message start).IsFlat := by
    refine Message.IsFlat.append (Message.IsFlat.append (.blank named) ?_) ?_
    · exact .plain (by simp) ⟨trivial, trivial, trivial⟩
    · exact .plain (by simp) trivial
  rw [decodeServiceRequest_eq]
  split
  · exact shown _
  · exact (shown _).report _ _ (by simp)

theorem decodePayload_of_ciphered
    {scope : Scope}
    {envelope : Envelope}
    (ciphered : envelope.kind.isCiphered = true) :
    scope.decodePayload envelope message window =
      scope.decodeCiphered envelope message window := by
  rw [decodePayload]
  split
  · rename_i kind_eq
    rw [kind_eq] at ciphered
    cases ciphered
  · rename_i kind_eq
    rw [kind_eq] at ciphered
    cases ciphered
  · exact if_pos ciphered

/-- A payload that is not ciphered comes to one opening in every fresh scope. -/
theorem decodePayload_opens
    {envelope : Envelope}
    (notCiphered : envelope.kind.isCiphered = false)
    (blank : message.IsBlank)
    (window : Window) :
    ∃ (opening : Opening) (isPartial : Bool),
      opening.Fits 2 window ∧
        ∀ scope : Scope, scope.partiallyCiphered = false →
          (scope.decodePayload envelope message window).1 =
            opening.finish { scope with partiallyCiphered := isPartial } := by
  have fresh_eq {scope : Scope} (fresh : scope.partiallyCiphered = false) :
      { scope with partiallyCiphered := false } = scope := by
    rcases scope with ⟨_, _, _, _, _⟩
    subst fresh
    rfl
  obtain ⟨opening, fits, decode_eq⟩ := decodePlain_opens blank window
  simp only [decodePayload]
  split
  · refine ⟨.closed _, false, decodeServiceRequest_isFlat envelope blank window, fun _ _ => rfl⟩
  · exact ⟨opening, true, fits, fun scope _ => decode_eq _⟩
  · refine ⟨opening, false, fits, fun scope fresh => ?_⟩
    rw [fresh_eq fresh, notCiphered]
    exact decode_eq scope

end Scope

/-- A message whose outer header cannot be read. -/
def Message.unopened (window : Window) : EnvelopeFault → Message
  | .wrongProtocol discriminator _ =>
      { Message.empty with discriminator := some discriminator }.report
        (.wrongDiscriminator discriminator) ⟨window.position, window.position + 1⟩
  | .truncated _ =>
      Message.empty.report
        (if window.isEmpty then
          .missingMandatory "Protocol discriminator"
        else
          .outOfBounds "Security header")
        window.remainingSpan

theorem Message.unopened_isFlat
    (window : Window)
    (fault : EnvelopeFault) :
    (Message.unopened window fault).IsFlat := by
  cases fault with
  | wrongProtocol discriminator headerType =>
      exact .blankReport ⟨rfl, rfl⟩ _ _ (by simp)
  | truncated shortage =>
      refine .blankReport Message.empty_isBlank _ _ ?_
      split <;> simp

theorem Scope.decodeMessage_of_error
    {scope : Scope}
    {window : Window}
    {fault : EnvelopeFault}
    (read : Envelope.read scope.config.dissectPlain window = .error fault) :
    (scope.decodeMessage window).1 = Message.unopened window fault := by
  cases fault <;> simp only [decodeMessage, read, Message.unopened]

theorem Scope.decodeMessage_of_ok
    {scope : Scope}
    {window after : Window}
    {envelope : Envelope}
    (read : Envelope.read scope.config.dissectPlain window = .ok (envelope, after)) :
    scope.decodeMessage window =
      scope.decodePayload envelope
        { Message.empty with
          envelope := some envelope
          discriminator := some envelope.discriminator }
        after := by
  simp only [decodeMessage, read]

namespace Setup

/-- The setup with another limit on nesting. -/
def withLimit (setup : Setup) (limit : Nat) : Setup :=
  { setup with config := { setup.config with maxNestingDepth := limit } }

/-- The octets behind an outer header, deciphered where they have to be and can be. -/
def deciphered (setup : Setup) (envelope : Envelope) (window : Window) : Window :=
  if envelope.kind.isCiphered then
    match ((setup.scope 0).payloadCipher envelope).decipher? window.rest with
    | some plain => .ofOctets plain window.position
    | none => window
  else
    window

theorem deciphered_of_not_ciphered
    {setup : Setup}
    {envelope : Envelope}
    {window : Window}
    (notCiphered : envelope.kind.isCiphered = false) :
    setup.deciphered envelope window = window := by
  rw [deciphered, notCiphered]
  rfl

/-- The octets that a message is read from, which follow its outer header if it has one. -/
def readable (setup : Setup) (carriage : Carriage) (window : Window) : Window :=
  match carriage with
  | .bare =>
      window
  | .complete =>
      match Envelope.read setup.config.dissectPlain window with
      | .ok (envelope, after) => setup.deciphered envelope after
      | .error _ => window

/-- Deciphering does not move the end of the octets, nor their start. -/
theorem deciphered_range
    (setup : Setup)
    (envelope : Envelope)
    (window : Window) :
    (setup.deciphered envelope window).position = window.position ∧
      (setup.deciphered envelope window).stop = window.stop := by
  rw [deciphered]
  split
  · split
    · rename_i plain found
      have plain_length : plain.length = window.remaining :=
        PayloadCipher.decipher?_length found
      simp [Window.stop, Window.remaining, plain_length]
    · exact ⟨rfl, rfl⟩
  · exact ⟨rfl, rfl⟩

/-- What is read is among the octets of the message, up to their end. -/
theorem readable_range
    (setup : Setup)
    (carriage : Carriage)
    (window : Window) :
    window.position ≤ (setup.readable carriage window).position ∧
      (setup.readable carriage window).stop = window.stop := by
  cases carriage with
  | bare =>
      exact ⟨Nat.le_refl _, rfl⟩
  | complete =>
      rw [readable, Envelope.read_eq]
      cases found : Envelope.ofOctets setup.config.dissectPlain window.rest with
      | error fault =>
          exact ⟨Nat.le_refl _, rfl⟩
      | ok envelope =>
          have fits := Envelope.octetCount_le found
          obtain ⟨position_eq, stop_eq⟩ :=
            setup.deciphered_range envelope (window.advance envelope.kind.octetCount)
          simp only [Except.map, position_eq, stop_eq]
          exact ⟨by simp, Window.advance_stop fits⟩

/--
Whatever the limit and the depth, decoding in a fresh scope of the setup comes to
one opening, whose body is decoded as that of a partially ciphered message or not.
-/
def Opens
    (setup : Setup)
    (least : Nat)
    (window : Window)
    (decode : Scope → Message) :
    Prop :=
  ∃ (opening : Opening) (isPartial : Bool),
    opening.Fits least window ∧
      ∀ limit nested depth,
        decode ((setup.withLimit limit).freshScope nested depth) =
          opening.finish
            { (setup.withLimit limit).freshScope nested depth with
              partiallyCiphered := isPartial }

/-- What comes to one opening in every scope does so in the fresh ones. -/
theorem opens_of_opens
    {least : Nat}
    {window : Window}
    {decode : Scope → Message}
    (setup : Setup)
    (opens : LteNas.Opens least window decode) :
    setup.Opens least window decode := by
  obtain ⟨opening, fits, decode_eq⟩ := opens
  exact ⟨opening, false, fits, fun limit nested depth => decode_eq _⟩

section Protected

variable {message : Message}

theorem decodeCiphered_opens
    {envelope : Envelope}
    (setup : Setup)
    (ciphered : envelope.kind.isCiphered = true)
    (blank : message.IsBlank)
    (window : Window) :
    setup.Opens 2 (setup.deciphered envelope window) fun scope =>
      (scope.decodeCiphered envelope message window).1 := by
  have cipher_eq (limit depth : Nat) (nested : Carriage → Window → Option (Message × Window)) :
      ((setup.withLimit limit).freshScope nested depth).payloadCipher envelope =
        (setup.scope 0).payloadCipher envelope :=
    rfl
  cases found : ((setup.scope 0).payloadCipher envelope).decipher? window.rest with
  | none =>
      have shown :
          (message.append "Ciphered message" window.remainingSpan
            (.ciphered window.rest)).IsFlat :=
        .append (.blank blank) (.ciphered window.rest rfl rfl)
      have flat := shown.report .decipherFailed window.remainingSpan (by simp)
      refine ⟨.closed _, false, flat, fun limit nested depth => ?_⟩
      simp only [Scope.decodeCiphered, cipher_eq, found, Opening.finish]
  | some plain =>
      obtain ⟨opening, fits, decode_eq⟩ :=
        Scope.decodePlain_opens blank (Window.ofOctets plain window.position)
      have deciphered_eq : setup.deciphered envelope window = .ofOctets plain window.position := by
        rw [deciphered, if_pos ciphered, found]
      refine ⟨opening, false, by rwa [deciphered_eq], fun limit nested depth => ?_⟩
      simp only [Scope.decodeCiphered, cipher_eq, found]
      exact decode_eq _

theorem decodePayload_opens
    (setup : Setup)
    (envelope : Envelope)
    (blank : message.IsBlank)
    (window : Window) :
    setup.Opens 2 (setup.deciphered envelope window) fun scope =>
      (scope.decodePayload envelope message window).1 := by
  cases ciphered : envelope.kind.isCiphered with
  | true =>
      simp only [Scope.decodePayload_of_ciphered ciphered]
      exact setup.decodeCiphered_opens ciphered blank window
  | false =>
      obtain ⟨opening, isPartial, fits, decode_eq⟩ :=
        Scope.decodePayload_opens ciphered blank window
      rw [deciphered_of_not_ciphered ciphered]
      exact ⟨opening, isPartial, fits, fun limit nested depth => decode_eq _ rfl⟩

theorem decodeMessage_opens
    (setup : Setup)
    (window : Window) :
    setup.Opens 2 (setup.readable .complete window) fun scope =>
      (scope.decodeMessage window).1 := by
  cases read : Envelope.read setup.config.dissectPlain window with
  | ok outer =>
      obtain ⟨envelope, after⟩ := outer
      have blank :
          Message.IsBlank { Message.empty with
            envelope := some envelope
            discriminator := some envelope.discriminator } :=
        ⟨rfl, rfl⟩
      have readable_eq : setup.readable .complete window = setup.deciphered envelope after := by
        rw [readable, read]
      obtain ⟨opening, isPartial, fits, decode_eq⟩ :=
        setup.decodePayload_opens envelope blank after
      refine ⟨opening, isPartial, by rwa [readable_eq], fun limit nested depth => ?_⟩
      have read :
          Envelope.read ((setup.withLimit limit).freshScope nested depth).config.dissectPlain
            window = .ok (envelope, after) :=
        read
      simp only [Scope.decodeMessage_of_ok read]
      exact decode_eq limit nested depth
  | error fault =>
      refine ⟨.closed _, false, Message.unopened_isFlat window fault, fun limit nested depth => ?_⟩
      exact Scope.decodeMessage_of_error read

/-- What is carried comes to one opening, behind two of the octets that it is read from at least. -/
theorem decodeCarried_opens
    (setup : Setup)
    (carriage : Carriage)
    (window : Window) :
    setup.Opens 2 (setup.readable carriage window) fun scope =>
      (scope.decodeCarried window carriage).1 := by
  cases carriage with
  | complete =>
      exact setup.decodeMessage_opens window
  | bare =>
      exact setup.opens_of_opens (Scope.decodePlain_opens Message.empty_isBlank window)

end Protected

end Setup

end LteNas
