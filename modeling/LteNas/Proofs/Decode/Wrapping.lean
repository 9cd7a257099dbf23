import LteNas.Proofs.Decode.Placement
import LteNas.Proofs.SecurityHeader

namespace LteNas

/-!
# Wrapped messages

What is decoded of a wrapped message is the message itself, further on: the
envelope is only handed through, and a deciphered payload takes the place of the
ciphered one.
-/

/-- The message under a header of another kind. -/
def Message.withKind (message : Message) (kind : HeaderKind) : Message :=
  { message with
    envelope := message.envelope.map fun envelope => { envelope with kind := kind } }

/-- The octets are a message that has no outer header. -/
def Config.ReadsPlain (config : Config) (octets : List UInt8) : Prop :=
  ∃ envelope after,
    Envelope.read config.dissectPlain (Window.ofOctets octets 0) = .ok (envelope, after) ∧
      envelope.kind = .plain

/-! ## The envelope is handed through -/

namespace Scope

/-- The envelope of a message is handed through. -/
theorem decodeTyped_envelope
    (scope : Scope)
    (layout? : UInt8 → Option MessageLayout)
    (message : Message)
    (envelope : Option Envelope)
    (window : Window) :
    (scope.decodeTyped layout? { message with envelope := envelope } window).1 =
      { (scope.decodeTyped layout? message window).1 with envelope := envelope } := by
  rw [decodeTyped, decodeTyped]
  cases window.octet with
  | error shortage =>
      rfl
  | ok read =>
      obtain ⟨code, after⟩ := read
      dsimp only
      cases layout? code with
      | none =>
          rfl
      | some layout =>
          rfl

theorem decodeSession_envelope
    (scope : Scope)
    (message : Message)
    (envelope : Option Envelope)
    (window : Window) :
    (scope.decodeSession { message with envelope := envelope } window).1 =
      { (scope.decodeSession message window).1 with envelope := envelope } := by
  rw [decodeSession, decodeSession]
  cases window.octet with
  | error shortage =>
      rfl
  | ok read =>
      obtain ⟨transaction, after⟩ := read
      exact decodeTyped_envelope scope _
        { message with transactionIdentity := some transaction } envelope after

theorem decodePlain_envelope
    (scope : Scope)
    (message : Message)
    (envelope : Option Envelope)
    (window : Window) :
    (scope.decodePlain { message with envelope := envelope } window).1 =
      { (scope.decodePlain message window).1 with envelope := envelope } := by
  rw [decodePlain, decodePlain]
  cases window.peek? with
  | none =>
      rfl
  | some first =>
      dsimp only
      cases Protocol.ofDiscriminator? (Protocol.discriminatorOf first) with
      | none =>
          rfl
      | some protocol =>
          cases protocol with
          | sessionManagement =>
              exact decodeSession_envelope scope
                { message with
                  discriminator := some (Protocol.discriminatorOf first)
                  bearerIdentity := some (highNibble first) }
                envelope _
          | mobilityManagement =>
              exact decodeTyped_envelope scope _
                { message with discriminator := some (Protocol.discriminatorOf first) }
                envelope _
          | testProcedures =>
              rfl

/-- Whatever is behind an envelope, the message keeps it. -/
theorem decodePayload_envelope
    (scope : Scope)
    (envelope : Envelope)
    (message : Message)
    (window : Window) :
    (scope.decodePayload envelope message window).1.envelope = message.envelope := by
  have plain (scope : Scope) (window : Window) :
      (scope.decodePlain message window).1.envelope = message.envelope := by
    have handed := scope.decodePlain_envelope message message.envelope window
    exact (congrArg Message.envelope handed).trans rfl
  rw [decodePayload]
  split
  · rw [decodeServiceRequest_eq]
    split <;> rfl
  · exact plain _ window
  · split
    · rw [decodeCiphered]
      split
      · exact plain scope _
      · rfl
    · exact plain scope window

/-- The discriminator of an inner message takes the place of the outer one. -/
theorem decodePlain_discriminator
    {window : Window}
    (more : window.rest ≠ [])
    (scope : Scope)
    (message : Message)
    (discriminator : Option UInt8) :
    scope.decodePlain { message with discriminator := discriminator } window =
      scope.decodePlain message window := by
  obtain ⟨first, others, shape⟩ := List.exists_cons_of_ne_nil more
  simp only [decodePlain, Window.peek?, shape, List.head?_cons]

end Scope

/-! ## Behind a header -/

/-- Further on, a plain message is the same message displaced. -/
theorem Setup.decodePlain_displaced
    {octets : List UInt8}
    {message : Message}
    {window : Window}
    {count : Nat}
    (setup : Setup)
    (blank : message.IsBlank)
    (position_eq : window.position = count)
    (rest_eq : window.rest = octets) :
    ((setup.scope 0).decodePlain message window).1 =
      ((setup.scope 0).decodePlain message (Window.ofOctets octets 0)).1.displace ⟨count, 0⟩ := by
  have aligned : (setup.scope 0).Aligned ⟨count, 0⟩ (setup.scope 0) :=
    (setup.aligned_self count).scope 0
  have moved : (Window.ofOctets octets 0).Moved ⟨count, 0⟩ window := by
    refine ⟨?_, rest_eq⟩
    rw [position_eq]
    simp
  exact (Scope.decodePlain_agree blank aligned moved
    (Window.ofOctets octets 0).remainingSpan_within_self).far_eq

namespace SecurityHeader

variable {header : SecurityHeader} {payload plain : List UInt8}
variable {direction : Direction} {config : Config}

/-- What is known of a message when its header has been read. -/
def message (header : SecurityHeader) : Message :=
  { Message.empty with envelope := some header.envelope, discriminator := some 0x07 }

/-- The message that plain octets hold, read from the beginning. -/
def contents
    (header : SecurityHeader)
    (octets : List UInt8)
    (direction : Direction)
    (config : Config) :
    Message :=
  (((Setup.ofConfig config direction).scope 0).decodePlain header.message
    (Window.ofOctets octets 0)).1

theorem decode_eq
    (wraps : header.Wraps)
    (unset : config.dissectPlain = false)
    (long : 2 ≤ payload.length) :
    decode (header.octets ++ payload) direction config =
      (((Setup.ofConfig config direction).scope 0).decodePayload header.envelope header.message
        ((Window.ofOctets (header.octets ++ payload) 0).advance 6)).1 := by
  have unset : ((Setup.ofConfig config direction).scope 0).config.dissectPlain = false :=
    unset
  have count_eq : header.envelope.kind.octetCount = 6 :=
    HeaderKind.octetCount_ofHeaderType wraps.1 wraps.2
  simp only [decode, Scope.decodeMessage, Envelope.read_eq, unset, Window.ofOctets_rest,
    ofOctets_eq wraps long, Except.map, count_eq]
  rfl

theorem behind_rest :
    ((Window.ofOctets (header.octets ++ payload) 0).advance 6).rest = payload := by
  rw [Window.advance_rest, Window.ofOctets_rest, ← octets_length, List.drop_left]

theorem LeavesPlain.decodePayload_eq
    (plain : header.LeavesPlain)
    (scope : Scope)
    (message : Message)
    (window : Window) :
    scope.decodePayload header.envelope message window = scope.decodePlain message window := by
  rcases plain.kind_eq with kind_eq | kind_eq | kind_eq <;>
    simp [Scope.decodePayload, envelope, kind_eq, HeaderKind.isCiphered]

theorem Ciphers.decodePayload_eq
    (ciphers : header.Ciphers)
    (scope : Scope)
    (message : Message)
    (window : Window) :
    scope.decodePayload header.envelope message window =
      scope.decodeCiphered header.envelope message window := by
  rcases ciphers.kind_eq with kind_eq | kind_eq <;>
    simp [Scope.decodePayload, envelope, kind_eq, HeaderKind.isCiphered]

/-- A payload that is not ciphered is decoded as it stands. -/
theorem LeavesPlain.decode_eq
    (plain : header.LeavesPlain)
    (unset : config.dissectPlain = false)
    (long : 2 ≤ payload.length) :
    decode (header.octets ++ payload) direction config =
      (header.contents payload direction config).displace ⟨6, 0⟩ := by
  rw [SecurityHeader.decode_eq plain.wraps unset long, plain.decodePayload_eq]
  exact Setup.decodePlain_displaced _ ⟨rfl, rfl⟩ rfl behind_rest

/-- Headers only differ in the envelope that they leave behind. -/
theorem contents_envelope
    (other : SecurityHeader)
    (octets : List UInt8) :
    header.contents octets direction config =
      { other.contents octets direction config with envelope := some header.envelope } := by
  exact Scope.decodePlain_envelope _ other.message (some header.envelope) _

theorem contents_withKind
    (octets : List UInt8) :
    ((header.uncipher.contents octets direction config).displace ⟨6, 0⟩).withKind header.kind =
      (header.contents octets direction config).displace ⟨6, 0⟩ := by
  have own : (header.contents octets direction config).envelope = some header.envelope := by
    rw [contents_envelope header]
  rw [contents_envelope header]
  generalize header.contents octets direction config = contents at own
  rcases contents with ⟨_, _, _, _, _, _, _, _⟩
  obtain rfl := own
  rfl

/-- How a ciphered payload behind the header is deciphered. -/
theorem payloadCipher_eq :
    ((Setup.ofConfig config direction).scope 0).payloadCipher header.envelope =
      ⟨config.usableKey?, config.nullDecipher, direction, header.sequenceNumber⟩ :=
  rfl

/-- A deciphered payload is decoded in place of the ciphered one. -/
theorem Ciphers.decode_eq
    (ciphers : header.Ciphers)
    (unset : config.dissectPlain = false)
    (long : 2 ≤ payload.length)
    (deciphers : config.Deciphers direction header.sequenceNumber payload plain)
    (starts : StartsMessage plain) :
    decode (header.octets ++ payload) direction config =
      (header.contents plain direction config).displace ⟨6, 0⟩ := by
  have found := Config.Deciphers.decipher?_iff.mpr ⟨deciphers, starts⟩
  rw [SecurityHeader.decode_eq ciphers.wraps unset long, ciphers.decodePayload_eq,
    Scope.decodeCiphered, behind_rest, payloadCipher_eq, found]
  exact Setup.decodePlain_displaced _ ⟨rfl, rfl⟩ rfl rfl

/-- Octets that were enciphered behind the header are decoded as if they had not been. -/
theorem Ciphers.decode_enciphered
    {key : Block}
    (ciphers : header.Ciphers)
    (unset : config.dissectPlain = false)
    (long : 2 ≤ payload.length)
    (usable : config.usableKey? = some key)
    (starts : StartsMessage payload) :
    decode
        (header.octets ++ aesCipher header.sequenceNumber.toUInt32 0 direction.bit key payload)
        direction config =
      (header.contents payload direction config).displace ⟨6, 0⟩ := by
  have deciphers := Config.Deciphers.of_enciphered direction header.sequenceNumber payload usable
  apply ciphers.decode_eq unset _ deciphers starts
  rw [aesCipher_length]
  exact long

/-- A payload that nothing readable comes out of is kept as it is. -/
theorem Ciphers.decode_eq_of_not_starts
    (ciphers : header.Ciphers)
    (unset : config.dissectPlain = false)
    (long : 2 ≤ payload.length)
    (unreadable : ∀ plain,
      config.Deciphers direction header.sequenceNumber payload plain → ¬ StartsMessage plain) :
    decode (header.octets ++ payload) direction config =
      { header.message with
        elements :=
          [⟨none, "Ciphered message", ⟨6, 6 + payload.length⟩, .ciphered payload⟩]
        diagnostics := [⟨.decipherFailed, ⟨6, 6 + payload.length⟩⟩] } := by
  have found :
      (PayloadCipher.mk config.usableKey? config.nullDecipher direction
        header.sequenceNumber).decipher? payload = none := by
    rw [Option.eq_none_iff_forall_ne_some]
    intro plain found
    obtain ⟨deciphers, starts⟩ := Config.Deciphers.decipher?_iff.mp found
    exact unreadable plain deciphers starts
  have span_eq :
      ((Window.ofOctets (header.octets ++ payload) 0).advance 6).remainingSpan =
        ⟨6, 6 + payload.length⟩ := by
    rw [Window.remainingSpan, Window.stop, Window.remaining, behind_rest]
    rfl
  rw [SecurityHeader.decode_eq ciphers.wraps unset long, ciphers.decodePayload_eq,
    Scope.decodeCiphered, behind_rest, payloadCipher_eq, found]
  simp only [span_eq]
  rfl

/-- A message without a header is decoded to its contents under a plain envelope. -/
theorem contents_of_readsPlain
    (header : SecurityHeader)
    (readsPlain : config.ReadsPlain payload)
    (long : 2 ≤ payload.length) :
    header.contents payload direction config =
      { decode payload direction config with envelope := some header.envelope } := by
  obtain ⟨envelope, after, read, kind_eq⟩ := readsPlain
  have scope_read :
      Envelope.read ((Setup.ofConfig config direction).scope 0).config.dissectPlain
          (Window.ofOctets payload 0) =
        .ok (envelope, after) :=
    read
  have after_eq : after = Window.ofOctets payload 0 := by
    rw [Envelope.read_eq] at read
    cases found : Envelope.ofOctets config.dissectPlain payload with
    | error fault =>
        simp [found, Except.map] at read
    | ok outer =>
        simp only [Window.ofOctets_rest, found, Except.map, Except.ok.injEq,
          Prod.mk.injEq] at read
        obtain ⟨rfl, rfl⟩ := read
        simp [kind_eq, HeaderKind.octetCount]
  have more : (Window.ofOctets payload 0).rest ≠ [] := by
    intro nothing
    have nothing : payload = [] := nothing
    simp [nothing] at long
  have decoded :
      decode payload direction config =
        (((Setup.ofConfig config direction).scope 0).decodePlain
          { Message.empty with
            envelope := some envelope
            discriminator := some envelope.discriminator }
          (Window.ofOctets payload 0)).1 := by
    simp only [decode, Scope.decodeMessage, scope_read, Scope.decodePayload, kind_eq,
      HeaderKind.isCiphered, after_eq]
    rfl
  rw [decoded, ← Scope.decodePlain_envelope, contents]
  exact congrArg Prod.fst
    (Scope.decodePlain_discriminator more _ header.message (some envelope.discriminator)).symm

end SecurityHeader

/-- What a security header leaves of the message behind it. -/
structure SecurityHeader.IsTransparent
    (header : SecurityHeader)
    (payload : List UInt8)
    (direction : Direction)
    (config : Config) :
    Prop where
  /-- A message without a header is decoded as it is alone, only further on. -/
  plain :
    header.LeavesPlain → config.ReadsPlain payload →
      decode (header.octets ++ payload) direction config =
        { (decode payload direction config).displace ⟨6, 0⟩ with
          envelope := some header.envelope }
  /-- A readable ciphered payload is decoded as its plain octets under a mere integrity header. -/
  deciphered {octets : List UInt8} :
    header.Ciphers →
      config.Deciphers direction header.sequenceNumber payload octets →
        StartsMessage octets →
          decode (header.octets ++ payload) direction config =
            (decode (header.uncipher.octets ++ octets) direction config).withKind header.kind
  /-- Any other ciphered payload is all that the message holds, and has one diagnostic. -/
  undeciphered :
    header.Ciphers →
      (∀ octets, config.Deciphers direction header.sequenceNumber payload octets →
        ¬ StartsMessage octets) →
        decode (header.octets ++ payload) direction config =
          { Message.empty with
            envelope := some header.envelope
            discriminator := some 0x07
            elements :=
              [⟨none, "Ciphered message", ⟨6, 6 + payload.length⟩, .ciphered payload⟩]
            diagnostics := [⟨.decipherFailed, ⟨6, 6 + payload.length⟩⟩] }
  /-- What was enciphered under the same key and direction is decoded as if it had not been. -/
  enciphered {key : Block} :
    header.Ciphers → config.usableKey? = some key → StartsMessage payload →
      decode
          (header.octets ++
            aesCipher header.sequenceNumber.toUInt32 0 direction.bit key payload)
          direction config =
        (decode (header.uncipher.octets ++ payload) direction config).withKind header.kind
  /-- So a message without a header is decoded as it is alone, also when it was enciphered. -/
  encipheredPlain {key : Block} :
    header.Ciphers → config.usableKey? = some key → StartsMessage payload →
      config.ReadsPlain payload →
        decode
            (header.octets ++
              aesCipher header.sequenceNumber.toUInt32 0 direction.bit key payload)
            direction config =
          { (decode payload direction config).displace ⟨6, 0⟩ with
            envelope := some header.envelope }

open SecurityHeader in
/-- Wrapping a message of two or more octets changes nothing but the envelope and the place. -/
theorem securityHeader_isTransparent
    (header : SecurityHeader)
    (payload : List UInt8)
    (direction : Direction)
    (config : Config)
    (unset : config.dissectPlain = false)
    (long : 2 ≤ payload.length) :
    header.IsTransparent payload direction config where
  plain leavesPlain readsPlain := by
    rw [leavesPlain.decode_eq unset long, contents_of_readsPlain header readsPlain long,
      Message.displace_eq, Message.displace_eq]
  deciphered {octets} ciphers deciphers starts := by
    have octets_long : 2 ≤ octets.length := by
      rw [deciphers.length_eq]
      exact long
    rw [ciphers.decode_eq unset long deciphers starts,
      uncipher_leavesPlain.decode_eq unset octets_long, contents_withKind]
  undeciphered ciphers unreadable :=
    ciphers.decode_eq_of_not_starts unset long unreadable
  enciphered {key} ciphers usable starts := by
    rw [ciphers.decode_enciphered unset long usable starts,
      uncipher_leavesPlain.decode_eq unset long, contents_withKind]
  encipheredPlain {key} ciphers usable starts readsPlain := by
    rw [ciphers.decode_enciphered unset long usable starts,
      contents_of_readsPlain header readsPlain long, Message.displace_eq, Message.displace_eq]

/-- An identity request behind an integrity header, behind a ciphering one, and enciphered. -/
theorem identityRequest_isTransparent :
    let keyed : Config :=
      { Config.standard with keyText := some "00112233445566778899aabbccddeeff" }
    let nullDeciphering : Config :=
      { Config.standard with nullDecipher := true }
    let header : SecurityHeader := ⟨2, #v[0x11, 0x22, 0x33, 0x44], 5⟩
    let payload : List UInt8 := [0x07, 0x55, 0x01]
    (keyed.dissectPlain = false ∧ 2 ≤ payload.length) ∧
      decode (header.uncipher.octets ++ payload) .downlink keyed =
        { (decode payload .downlink keyed).displace ⟨6, 0⟩ with
          envelope := some header.uncipher.envelope } ∧
      (∃ key, keyed.usableKey? = some key ∧
        decode (header.octets ++ aesCipher 5 0 1 key payload) .downlink keyed =
          { (decode payload .downlink keyed).displace ⟨6, 0⟩ with
            envelope := some header.envelope }) ∧
      decode (header.octets ++ payload) .downlink nullDeciphering =
        (decode (header.uncipher.octets ++ payload) .downlink nullDeciphering).withKind
          .integrityProtectedCiphered ∧
      decode (header.octets ++ payload) .downlink Config.standard =
        { Message.empty with
          envelope := some header.envelope
          discriminator := some 0x07
          elements := [⟨none, "Ciphered message", ⟨6, 9⟩, .ciphered payload⟩]
          diagnostics := [⟨.decipherFailed, ⟨6, 9⟩⟩] } := by
  intro keyed nullDeciphering header payload
  have ciphers : header.Ciphers :=
    .inl rfl
  have starts : StartsMessage payload :=
    ⟨0x07, rfl, by decide⟩
  have readsPlain : keyed.ReadsPlain payload :=
    ⟨.plain 0x07, Window.ofOctets payload 0, rfl, rfl⟩
  refine ⟨⟨rfl, by decide⟩, ?_, ?_, ?_, ?_⟩
  · have transparent :=
      securityHeader_isTransparent header.uncipher payload .downlink keyed rfl (by decide)
    exact transparent.plain (.inl rfl) readsPlain
  · have usable : keyed.usableKey?.isSome = true := by
      decide +kernel
    obtain ⟨key, usable⟩ := Option.isSome_iff_exists.mp usable
    have transparent :=
      securityHeader_isTransparent header payload .downlink keyed rfl (by decide)
    exact ⟨key, usable, transparent.encipheredPlain ciphers usable starts readsPlain⟩
  · have transparent :=
      securityHeader_isTransparent header payload .downlink nullDeciphering rfl (by decide)
    exact transparent.deciphered ciphers (.null rfl rfl) starts
  · have transparent :=
      securityHeader_isTransparent header payload .downlink Config.standard rfl (by decide)
    refine transparent.undeciphered ciphers ?_
    intro octets deciphers
    cases deciphers with
    | aes usable =>
        cases usable
    | null keyless asked =>
        cases asked

end LteNas
