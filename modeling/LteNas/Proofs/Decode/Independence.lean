import LteNas.Proofs.Decode.Raising
import LteNas.Proofs.Decode.Wrapping

namespace LteNas

/-!
# What neither key nor direction decides

The key and the direction serve to decipher, and the direction tells the two
requests to detach apart.  A run that comes upon nothing ciphered and no request
to detach would come to the same with any other key, in any other direction.
That is told of the first run alone, since the second one opens every message as
the first one does.
-/

/-- The message is not ciphered as a whole, and no request to detach. -/
structure Message.IsNeutral (message : Message) : Prop where
  unciphered {envelope : Envelope} :
    message.envelope = some envelope → envelope.kind.isCiphered = false
  noDetach : message.name ≠ some MobilityMessage.detachRequest.name

/-- The message and every message inside it are neutral. -/
def Message.IsNeutralThroughout (message : Message) : Prop :=
  ∀ depth inner, message.HoldsAt depth inner → inner.IsNeutral

theorem Message.IsNeutralThroughout.carried
    {message carried : Message}
    {element : Element}
    (neutral : message.IsNeutralThroughout)
    (member : element ∈ message.elements)
    (carries : element.value.Carries carried) :
    carried.IsNeutralThroughout :=
  fun depth inner holds => neutral (depth + 1) inner (.nested member carries holds)

/-- The setups agree in everything but the key, null deciphering and the direction. -/
structure Setup.AgreesBesideCipher (near far : Setup) : Prop where
  dissectPlain_eq : far.config.dissectPlain = near.config.dissectPlain
  userData_eq : far.config.userData = near.config.userData
  nonIpProtocol_eq : far.config.nonIpProtocol = near.config.nonIpProtocol
  maxNestingDepth_eq : far.config.maxNestingDepth = near.config.maxNestingDepth

/-! ## The same opening -/

/-- Only a request to detach has other entries in the other direction. -/
theorem MessageLayout.IsShipped.entries_eq
    {layout : MessageLayout}
    (shipped : layout.IsShipped)
    (noDetach : layout.name ≠ MobilityMessage.detachRequest.name)
    (near far : Direction)
    (window : Window) :
    layout.body.entries far window = layout.body.entries near window := by
  rcases shipped with ⟨message, rfl⟩ | ⟨message, rfl⟩
  · cases message <;> first | rfl | exact absurd rfl noDetach
  · cases message <;> rfl

namespace Setup

variable {near far : Setup} {depth : Nat} {carriage : Carriage} {window : Window}

/-- A message that is not ciphered as a whole comes to one opening wherever headers are read alike. -/
theorem decodeAt_opens_of_unciphered
    (unciphered : ∀ envelope,
      (near.decodeAt depth carriage window).envelope = some envelope →
        envelope.kind.isCiphered = false) :
    ∃ (opening : Opening) (isPartial : Bool) (behind : Window),
      opening.Fits 2 behind ∧
        ∀ far : Setup, far.config.dissectPlain = near.config.dissectPlain →
          far.decodeAt depth carriage window =
            opening.finish { far.scope depth with partiallyCiphered := isPartial } := by
  cases carriage with
  | bare =>
      obtain ⟨opening, fits, decode_eq⟩ :=
        Scope.decodePlain_opens Message.empty_isBlank window
      exact ⟨opening, false, window, fits, fun far _ => decode_eq _⟩
  | complete =>
      cases read : Envelope.read near.config.dissectPlain window with
      | error fault =>
          refine ⟨.closed _, false, window, Message.unopened_isFlat window fault, ?_⟩
          intro far dissectPlain_eq
          rw [← dissectPlain_eq] at read
          exact Scope.decodeMessage_of_error read
      | ok outer =>
          obtain ⟨envelope, after⟩ := outer
          have blank :
              Message.IsBlank { Message.empty with
                envelope := some envelope
                discriminator := some envelope.discriminator } :=
            ⟨rfl, rfl⟩
          have payload_eq (far : Setup)
              (dissectPlain_eq : far.config.dissectPlain = near.config.dissectPlain) :
              far.decodeAt depth .complete window =
                ((far.scope depth).decodePayload envelope
                  { Message.empty with
                    envelope := some envelope
                    discriminator := some envelope.discriminator }
                  after).1 := by
            rw [← dissectPlain_eq] at read
            rw [decodeAt, Scope.decodeCarried, Scope.decodeMessage_of_ok read]
          have notCiphered : envelope.kind.isCiphered = false := by
            apply unciphered
            rw [payload_eq near rfl, Scope.decodePayload_envelope]
          obtain ⟨opening, isPartial, fits, decode_eq⟩ :=
            Scope.decodePayload_opens notCiphered blank after
          refine ⟨opening, isPartial, after, fits, fun far dissectPlain_eq => ?_⟩
          rw [payload_eq far dissectPlain_eq]
          exact decode_eq _ rfl

end Setup

/-- An opening comes to the same in scopes that are alike and share what is carried. -/
theorem Opening.finish_same
    {least : Nat}
    {window : Window}
    {opening : Opening}
    {near far : Scope}
    (fits : opening.Fits least window)
    (alike : near.Alike far)
    (shares : near.Shares far Message.IsNeutralThroughout fun _ => True)
    (neutral : (opening.finish near).IsNeutralThroughout) :
    opening.finish far = opening.finish near := by
  cases opening with
  | closed message =>
      rfl
  | body layout header behind =>
      have noDetach : layout.name ≠ MobilityMessage.detachRequest.name := by
        intro name_eq
        exact (neutral 0 _ .self).noDetach (congrArg some name_eq)
      have regular : (layout.body.entries near.direction behind).Regular :=
        (fits.1.entries_isShipped near.direction behind).regular
      have confined :
          (layout.body.walk near behind).ConfinedTo Message.IsNeutralThroughout fun _ => True :=
        ⟨fun element member carried carries => neutral.carried member carries,
          fun _ _ => trivial⟩
      have walk_eq : layout.body.walk far behind = layout.body.walk near behind := by
        rw [MessageBody.walk, fits.1.entries_eq noDetach near.direction far.direction]
        exact Catalogue.walk_same regular alike shares confined
      rw [finish, finish, Scope.decodeBody, Scope.decodeBody, walk_eq]

/-! ## From level to level -/

namespace Setup

variable {near far : Setup} {depth : Nat} {carriage : Carriage} {window : Window}

/-- What is nested at a depth is shared if messages one level deeper are the same. -/
theorem shares_of_deeper
    (agrees : near.AgreesBesideCipher far)
    (deeper : depth < near.config.maxNestingDepth → ∀ carriage window,
      (near.decodeAt (depth + 1) carriage window).IsNeutralThroughout →
        far.decodeAt (depth + 1) carriage window = near.decodeAt (depth + 1) carriage window) :
    (near.scope depth).Shares (far.scope depth) Message.IsNeutralThroughout fun _ => True where
  entered := by
    intro carriage window after message entered neutral
    rw [scope_nested] at entered ⊢
    split at entered
    · rename_i below
      have message_eq : near.decodeAt (depth + 1) carriage window = message := by
        rw [decodeAt, Option.some.inj entered]
      rw [← message_eq] at neutral
      have far_eq := (deeper below carriage window neutral).trans message_eq
      rw [if_pos (agrees.maxNestingDepth_eq ▸ below), ← far_eq]
      exact ⟨_, rfl⟩
    · cases entered
  refused := by
    intro carriage window refused _
    rw [scope_nested] at refused ⊢
    split at refused
    · cases refused
    · rename_i reached
      rw [if_neg (agrees.maxNestingDepth_eq ▸ reached)]
      exact ⟨rfl, agrees.maxNestingDepth_eq⟩

/-- A neutral message at a depth is the same in both setups if those one level deeper are. -/
theorem decodeAt_eq_of_deeper
    (agrees : near.AgreesBesideCipher far)
    (deeper : depth < near.config.maxNestingDepth → ∀ carriage window,
      (near.decodeAt (depth + 1) carriage window).IsNeutralThroughout →
        far.decodeAt (depth + 1) carriage window = near.decodeAt (depth + 1) carriage window)
    (neutral : (near.decodeAt depth carriage window).IsNeutralThroughout) :
    far.decodeAt depth carriage window = near.decodeAt depth carriage window := by
  obtain ⟨opening, isPartial, behind, fits, decode_eq⟩ :=
    decodeAt_opens_of_unciphered fun _ => (neutral 0 _ .self).unciphered
  rw [decode_eq near rfl] at neutral ⊢
  rw [decode_eq far agrees.dissectPlain_eq]
  have shares := shares_of_deeper agrees deeper
  exact Opening.finish_same fits
    ⟨agrees.userData_eq, agrees.nonIpProtocol_eq, rfl, rfl⟩
    ⟨shares.entered, shares.refused⟩ neutral

/-- A message that is neutral throughout is the same in both setups. -/
theorem decodeAt_eq
    (agrees : near.AgreesBesideCipher far)
    (neutral : (near.decodeAt depth carriage window).IsNeutralThroughout) :
    far.decodeAt depth carriage window = near.decodeAt depth carriage window := by
  -- the induction is on the levels that may still be entered
  induction levels_eq : near.config.maxNestingDepth - depth
    generalizing depth carriage window with
  | zero =>
      refine decodeAt_eq_of_deeper agrees (fun below => ?_) neutral
      exact absurd levels_eq (Nat.sub_ne_zero_of_lt below)
  | succ levels inductionHypothesis =>
      refine decodeAt_eq_of_deeper agrees (fun _ carriage window => ?_) neutral
      intro innerNeutral
      exact inductionHypothesis innerNeutral (by omega)

end Setup

/--
Key, null deciphering and direction do not matter to a message in which, at every
depth, nothing is ciphered as a whole and nothing is a request to detach.
-/
theorem decode_neutral
    (octets : List UInt8)
    (direction otherDirection : Direction)
    (config : Config)
    (keyText : Option String)
    (nullDecipher : Bool)
    (neutral : (decode octets direction config).IsNeutralThroughout) :
    decode octets otherDirection { config with keyText, nullDecipher } =
      decode octets direction config := by
  have agrees :
      (Setup.ofConfig config direction).AgreesBesideCipher
        (Setup.ofConfig { config with keyText, nullDecipher } otherDirection) :=
    ⟨rfl, rfl, rfl, rfl⟩
  rw [decode_eq_decodeAt] at neutral ⊢
  exact Setup.decodeAt_eq agrees neutral

/--
A completed attach is integrity protected, and carries a bearer that is accepted.
With a key and in the other direction it is the same.
-/
theorem decode_neutral_attachComplete :
    let octets : List UInt8 :=
      [0x17, 0x0A, 0x0B, 0x0C, 0x0D, 0x05, 0x07, 0x43, 0x00, 0x03, 0x52, 0x01, 0xC2]
    let keyText := some "000102030405060708090A0B0C0D0E0F"
    (decode octets .uplink .standard).IsNeutralThroughout ∧
      decode octets .downlink { Config.standard with keyText, nullDecipher := true } =
        decode octets .uplink .standard := by
  intro octets keyText
  let inner : Message :=
    { Message.empty with
      discriminator := some 0x02
      bearerIdentity := some 0x05
      transactionIdentity := some 0x01
      messageType := some 0xC2
      name := some "Activate default EPS bearer context accept" }
  have envelope_eq :
      (decode octets .uplink .standard).envelope =
        some ⟨.integrityProtected, 0x07, some 0x0A0B0C0D, some 0x05, none⟩ := by
    rfl
  have elements_eq :
      (decode octets .uplink .standard).elements =
        [⟨none, "ESM message container", ⟨8, 13⟩, .message inner⟩] := by
    rfl
  have neutral : (decode octets .uplink .standard).IsNeutralThroughout := by
    intro depth held holds
    cases holds with
    | self =>
        refine ⟨fun found => ?_, by decide⟩
        rw [← Option.some.inj (envelope_eq.symm.trans found)]
        rfl
    | nested member carries holds =>
        rw [elements_eq] at member
        obtain rfl := List.mem_singleton.mp member
        cases carries
        cases holds with
        | self =>
            exact ⟨fun found => (nomatch found), by decide⟩
        | nested member _ _ =>
            cases member
  exact ⟨neutral, decode_neutral octets .uplink .downlink .standard keyText true neutral⟩

end LteNas
