import LteNas.Cipher.Payload
import LteNas.Config.Basic

namespace LteNas

/-!
# Deciphered payloads

A keystream has at least as many octets as the data that it is added to.  So
ciphering keeps the length of the data, and ciphering twice gives it back; what
a payload is deciphered to has the length of the payload.
-/

namespace CounterMode

@[simp] theorem keystream_length
    (encipher : Block → Block)
    (blocks counter : Nat) :
    (keystream encipher blocks counter).length = 16 * blocks := by
  induction blocks generalizing counter with
  | zero =>
      rfl
  | succ blocks inductionHypothesis =>
      rw [keystream, List.length_append, inductionHypothesis, Vector.length_toList]
      omega

theorem add_length
    {data stream : List UInt8}
    (long : data.length ≤ stream.length) :
    (add data stream).length = data.length := by
  rw [add, List.length_zipWith, Nat.min_eq_left long]

/-- Adding a keystream twice takes it away again. -/
theorem add_add
    {data stream : List UInt8}
    (long : data.length ≤ stream.length) :
    add (add data stream) stream = data := by
  induction data generalizing stream with
  | nil =>
      rfl
  | cons octet data inductionHypothesis =>
      cases stream with
      | nil =>
          simp at long
      | cons mask stream =>
          have shorter : data.length ≤ stream.length := by
            simpa using long
          have back : octet ^^^ mask ^^^ mask = octet := by
            rw [UInt8.xor_assoc, UInt8.xor_self, UInt8.xor_zero]
          change (octet ^^^ mask ^^^ mask) :: add (add data stream) stream = octet :: data
          rw [back, inductionHypothesis shorter]

theorem length_le_keystream
    (encipher : Block → Block)
    (counter : Nat)
    (data : List UInt8) :
    data.length ≤ (keystream encipher (data.length / 16 + 1) counter).length := by
  rw [keystream_length]
  omega

@[simp] theorem cipher_length
    (encipher : Block → Block)
    (counter : Nat)
    (data : List UInt8) :
    (cipher encipher counter data).length = data.length :=
  add_length (length_le_keystream encipher counter data)

@[simp] theorem cipher_cipher
    (encipher : Block → Block)
    (counter : Nat)
    (data : List UInt8) :
    cipher encipher counter (cipher encipher counter data) = data := by
  rw [cipher, cipher_length, cipher]
  exact add_add (length_le_keystream encipher counter data)

end CounterMode

@[simp] theorem aesCipher_length
    (count : UInt32)
    (bearer direction : UInt8)
    (key : Block)
    (data : List UInt8) :
    (aesCipher count bearer direction key data).length = data.length :=
  CounterMode.cipher_length _ _ data

/-- What was enciphered is deciphered by enciphering it again. -/
@[simp] theorem aesCipher_aesCipher
    (count : UInt32)
    (bearer direction : UInt8)
    (key : Block)
    (data : List UInt8) :
    aesCipher count bearer direction key (aesCipher count bearer direction key data) = data :=
  CounterMode.cipher_cipher _ _ data

namespace PayloadCipher

theorem transform?_length
    {cipher : PayloadCipher}
    {payload plain : List UInt8}
    (found : cipher.transform? payload = some plain) :
    plain.length = payload.length := by
  rw [transform?] at found
  split at found
  · cases found
    exact aesCipher_length ..
  · split at found
    · cases found
      rfl
    · cases found

theorem decipher?_eq_some_iff
    {cipher : PayloadCipher}
    {payload plain : List UInt8} :
    cipher.decipher? payload = some plain ↔
      cipher.transform? payload = some plain ∧ startsMessage plain = true := by
  rw [decipher?, Option.filter_eq_some_iff]

/-- A deciphered payload has as many octets as the ciphered one. -/
theorem decipher?_length
    {cipher : PayloadCipher}
    {payload plain : List UInt8}
    (found : cipher.decipher? payload = some plain) :
    plain.length = payload.length :=
  transform?_length (decipher?_eq_some_iff.mp found).1

end PayloadCipher

/-! ## Deciphering under settings -/

/-- Octets that start like a message of one of the three protocols. -/
def StartsMessage (octets : List UInt8) : Prop :=
  ∃ first, octets.head? = some first ∧
    (first &&& 0x0F = 2 ∨ first &&& 0x0F = 7 ∨ first &&& 0x0F = 15)

theorem startsMessage_iff
    {octets : List UInt8} :
    PayloadCipher.startsMessage octets = true ↔ StartsMessage octets := by
  have known (first : UInt8) :
      Protocol.isKnownStart first = true ↔
        first &&& 0x0F = 2 ∨ first &&& 0x0F = 7 ∨ first &&& 0x0F = 15 := by
    rw [Protocol.isKnownStart, Protocol.discriminatorOf, Protocol.ofDiscriminator?]
    simp only [← UInt8.toNat_inj]
    split
    · rename_i code_eq
      simp [code_eq]
    · rename_i code_eq
      simp [code_eq]
    · rename_i code_eq
      simp [code_eq]
    · rename_i notSession notMobility notTest
      refine iff_of_false (by simp) ?_
      rintro (session | mobility | test)
      · exact notSession session
      · exact notMobility mobility
      · exact notTest test
  cases octets with
  | nil =>
      simp [PayloadCipher.startsMessage, StartsMessage]
  | cons first others =>
      simp [PayloadCipher.startsMessage, StartsMessage, known]

/--
The plain octets of a ciphered payload: under a usable key the decipherment with
the sequence number as count, without one the payload itself if that is asked for.
-/
inductive Config.Deciphers
    (config : Config)
    (direction : Direction)
    (sequenceNumber : UInt8)
    (payload : List UInt8) :
    List UInt8 → Prop where
  | aes {key : Block}
      (usable : config.usableKey? = some key) :
      Deciphers config direction sequenceNumber payload
        (aesCipher sequenceNumber.toUInt32 0 direction.bit key payload)
  | null
      (keyless : config.usableKey? = none)
      (asked : config.nullDecipher = true) :
      Deciphers config direction sequenceNumber payload payload

namespace Config.Deciphers

variable {config : Config} {direction : Direction} {sequenceNumber : UInt8}
variable {payload plain : List UInt8}

theorem length_eq
    (deciphers : config.Deciphers direction sequenceNumber payload plain) :
    plain.length = payload.length := by
  cases deciphers with
  | aes usable =>
      exact aesCipher_length ..
  | null keyless asked =>
      rfl

/-- What was enciphered with the usable key is deciphered. -/
theorem of_enciphered
    {key : Block}
    (direction : Direction)
    (sequenceNumber : UInt8)
    (payload : List UInt8)
    (usable : config.usableKey? = some key) :
    config.Deciphers direction sequenceNumber
      (aesCipher sequenceNumber.toUInt32 0 direction.bit key payload) payload := by
  have deciphers :
      config.Deciphers direction sequenceNumber
        (aesCipher sequenceNumber.toUInt32 0 direction.bit key payload)
        (aesCipher sequenceNumber.toUInt32 0 direction.bit key
          (aesCipher sequenceNumber.toUInt32 0 direction.bit key payload)) :=
    .aes usable
  rwa [aesCipher_aesCipher] at deciphers

/-- The payload cipher of settings gives what they decipher to. -/
theorem iff_transform? :
    config.Deciphers direction sequenceNumber payload plain ↔
      (PayloadCipher.mk config.usableKey? config.nullDecipher direction
        sequenceNumber).transform? payload = some plain := by
  rw [PayloadCipher.transform?]
  constructor
  · intro deciphers
    cases deciphers with
    | aes usable =>
        rw [usable]
        rfl
    | null keyless asked =>
        rw [keyless]
        exact if_pos asked
  · intro found
    cases usable : config.usableKey? with
    | some key =>
        rw [usable] at found
        cases found
        exact .aes usable
    | none =>
        rw [usable] at found
        by_cases asked : config.nullDecipher = true
        · rw [if_pos asked] at found
          cases found
          exact .null usable asked
        · rw [if_neg asked] at found
          cases found

/-- What a payload is deciphered to: octets that start like a message. -/
theorem decipher?_iff :
    (PayloadCipher.mk config.usableKey? config.nullDecipher direction
        sequenceNumber).decipher? payload = some plain ↔
      config.Deciphers direction sequenceNumber payload plain ∧ StartsMessage plain := by
  rw [PayloadCipher.decipher?_eq_some_iff, startsMessage_iff, iff_transform?]

end Config.Deciphers

end LteNas
