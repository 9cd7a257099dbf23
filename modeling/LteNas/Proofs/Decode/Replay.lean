import LteNas.Proofs.Decode.Levels
import LteNas.Proofs.Element.Entering

namespace LteNas

/-!
# Replayed messages

A terminal that completes the security mode may send its first message again,
security header included, inside the completion.  The message inside is decoded
as it is alone: only further on, and a level deeper.
-/

/-- A message that completes the security mode and replays octets. -/
def replaying (octets : List UInt8) : List UInt8 :=
  0x07 :: 0x5E :: 0x79 :: (bigEndianOctets 2 octets.length ++ octets)

/-- A message that starts with the discriminator of mobility management alone has no header. -/
theorem Envelope.read_of_mobility
    {window : Window}
    {others : List UInt8}
    (dissectPlain : Bool)
    (shape : window.rest = 0x07 :: others) :
    Envelope.read dissectPlain window = .ok (.plain 0x07, window) := by
  have headerType_eq : (0x07 : UInt8) >>> 4 = 0 := by
    decide
  have notService : ¬ serviceRequestType ≤ 0 := by
    decide
  simp only [read, Window.peek?, shape, List.head?_cons, headerType_eq, notService, and_false,
    if_false, true_or, or_true, if_true]
  rfl

/-- The container of a replayed message is the only element of the completion. -/
theorem Catalogue.walk_replaying
    {window : Window}
    {octets : List UInt8}
    {message : Message}
    {behind : Window}
    (scope : Scope)
    (fits : octets.length ≤ 65535)
    (shape : window.rest = 0x79 :: (bigEndianOctets 2 octets.length ++ octets))
    (nested : scope.nested .complete (.ofOctets octets (window.position + 3)) =
      some (message, behind)) :
    let walk := Catalogue.walk scope window .securityModeComplete
    walk.elements =
        [⟨some 0x79, "Replayed NAS message container",
          ⟨window.position, window.position + (3 + octets.length)⟩, .message message⟩] ∧
      walk.diagnostics = [] := by
  -- an equipment identity could stand in front of the container
  have absent : (WireFormat.taggedSized 0x23).frame window = .absent :=
    WireFormat.frame_of_not_accepts shape (by decide)
  have admitted : (WireFormat.taggedSizedExtended 0x79).Admits octets.length :=
    Nat.lt_succ_of_le fits
  have spelled :
      window.rest =
        (WireFormat.taggedSizedExtended 0x79).header octets.length ++ octets ++ [] := by
    rw [shape, List.append_nil]
    rfl
  have framing :
      (WireFormat.taggedSizedExtended 0x79).frame window =
        .body (.ofOctets octets (window.position + 3)) (window.advance (3 + octets.length)) :=
    WireFormat.frame_of_cuts (by simp [shape]) (WireFormat.cuts_of_spelled window admitted spelled)
  have finished : (window.advance (3 + octets.length)).rest = [] := by
    have octets_length : window.rest.length = 3 + octets.length := by
      simp [shape]
      omega
    rw [Window.advance_rest, ← octets_length, List.drop_length]
  have reading_eq :
      (Decoder.octets ElementValue.replayedMessage).decodeOctets scope
          (.ofOctets octets (window.position + 3)) =
        ⟨.ok (.message message, behind), [], scope.containerType⟩ :=
    ElementValue.carriedMessage_of_some nested
  simp only [Catalogue.securityModeComplete, Catalogue.walk, ElementSpec.taggedSized,
    ElementSpec.taggedSizedExtended, absent, framing, reading_eq, Walk.finish, Window.isEmpty,
    finished, List.isEmpty_nil, if_true, Walk.prepend, ElementSpec.diagnosticsOf,
    ElementSpec.valueOf, ElementSpec.element, WireFormat.tag?, Window.advance_position,
    List.append_nil, and_self]

/-- What is decoded of a message that replays octets, the message inside being another one. -/
theorem Scope.decodeMessage_replaying
    {octets : List UInt8}
    {message : Message}
    {behind : Window}
    (scope : Scope)
    (fits : octets.length ≤ 65535)
    (nested : scope.nested .complete (.ofOctets octets 5) = some (message, behind)) :
    (scope.decodeMessage (.ofOctets (replaying octets) 0)).1 =
      { Message.empty with
        envelope := some (.plain 0x07)
        discriminator := some 0x07
        messageType := some 0x5E
        name := some "Security mode complete"
        elements :=
          [⟨some 0x79, "Replayed NAS message container", ⟨2, 5 + octets.length⟩,
            .message message⟩] } := by
  let opened : Message :=
    { Message.empty with
      envelope := some (.plain 0x07)
      discriminator := some 0x07
      messageType := some 0x5E }
  let behindHeader : Window :=
    ((Window.ofOctets (replaying octets) 0).advance 1).advance 1
  have shape : behindHeader.rest = 0x79 :: (bigEndianOctets 2 octets.length ++ octets) :=
    rfl
  obtain ⟨elements_eq, diagnostics_eq⟩ :=
    Catalogue.walk_replaying scope fits shape nested
  have read :
      Envelope.read scope.config.dissectPlain (Window.ofOctets (replaying octets) 0) =
        .ok (.plain 0x07, Window.ofOctets (replaying octets) 0) :=
    Envelope.read_of_mobility _ rfl
  have decode_eq :
      scope.decodeMessage (Window.ofOctets (replaying octets) 0) =
        scope.decodeBody ⟨"Security mode complete", .catalogue .securityModeComplete⟩ opened
          behindHeader := by
    rw [decodeMessage, read]
    rfl
  have span_eq :
      (⟨behindHeader.position, behindHeader.position + (3 + octets.length)⟩ : Span) =
        ⟨2, 5 + octets.length⟩ := by
    simp [behindHeader]
    omega
  rw [decode_eq, decodeBody, MessageBody.walk, MessageBody.entries]
  simp only [elements_eq, diagnostics_eq, span_eq]
  rfl

/--
The message that is replayed is the one that its octets hold alone, displaced by
the five octets in front of it and by one level.
-/
theorem decode_replaying
    (octets : List UInt8)
    (fits : octets.length ≤ 65535)
    (direction : Direction)
    (config : Config)
    (limit : Nat) :
    decode (replaying octets) direction { config with maxNestingDepth := limit + 1 } =
      { Message.empty with
        envelope := some (.plain 0x07)
        discriminator := some 0x07
        messageType := some 0x5E
        name := some "Security mode complete"
        elements :=
          [⟨some 0x79, "Replayed NAS message container", ⟨2, 5 + octets.length⟩,
            .message
              ((decode octets direction { config with maxNestingDepth := limit }).displace
                ⟨5, 1⟩)⟩]
        diagnostics := [] } := by
  let alone := Setup.ofConfig { config with maxNestingDepth := limit } direction
  let replayed := Setup.ofConfig { config with maxNestingDepth := limit + 1 } direction
  have aligned : alone.Aligned ⟨5, 1⟩ replayed :=
    ⟨rfl, rfl, rfl⟩
  have moved : (Window.ofOctets octets 0).Moved ⟨5, 1⟩ (.ofOctets octets 5) :=
    ⟨rfl, rfl⟩
  have message_eq :
      replayed.decodeAt 1 .complete (.ofOctets octets 5) =
        (decode octets direction { config with maxNestingDepth := limit }).displace ⟨5, 1⟩ :=
    (Scope.decodeMessage_agree (aligned.scope 0) moved
      (Window.remainingSpan_within_self _)).far_eq
  have nested :
      (replayed.scope 0).nested .complete (.ofOctets octets 5) =
        some ((replayed.scope 1).decodeCarried (.ofOctets octets 5) .complete) := by
    have below : 0 < replayed.config.maxNestingDepth :=
      Nat.succ_pos limit
    rw [replayed.scope_nested, if_pos below]
  rw [decode, Scope.decodeMessage_replaying _ fits nested, ← message_eq]
  rfl

/--
An attach that is completed inside an attach that is completed, replayed: the
innermost container is as far over the limit as it is alone, and says so with the
limit of the replayed one.
-/
theorem decode_replaying_attachComplete :
    let octets : List UInt8 :=
      [0x07, 0x43, 0x00, 0x04, 0x07, 0x43, 0x00, 0x00]
    let completed (envelope : Option Envelope) (span : Span) (value : Value)
        (diagnostics : List Diagnostic) : Message :=
      { Message.empty with
        envelope
        discriminator := some 0x07
        messageType := some 0x43
        name := some "Attach complete"
        elements := [⟨none, "ESM message container", span, value⟩]
        diagnostics }
    octets.length ≤ 65535 ∧
      decode octets .uplink { Config.standard with maxNestingDepth := 1 } =
        completed (some (.plain 0x07)) ⟨2, 8⟩
          (.message (completed none ⟨6, 8⟩ (.octets []) [⟨.nestingLimit 1, ⟨8, 8⟩⟩])) [] ∧
      decode (replaying octets) .uplink { Config.standard with maxNestingDepth := 2 } =
        { Message.empty with
          envelope := some (.plain 0x07)
          discriminator := some 0x07
          messageType := some 0x5E
          name := some "Security mode complete"
          elements :=
            [⟨some 0x79, "Replayed NAS message container", ⟨2, 13⟩,
              .message
                (completed (some (.plain 0x07)) ⟨7, 13⟩
                  (.message
                    (completed none ⟨11, 13⟩ (.octets []) [⟨.nestingLimit 2, ⟨13, 13⟩⟩]))
                  [])⟩] } := by
  intro octets completed
  have fits : octets.length ≤ 65535 := by
    decide
  exact ⟨fits, rfl, (decode_replaying octets fits .uplink .standard 1).trans rfl⟩

end LteNas
