import LteNas.Proofs.Envelope

namespace LteNas

/-!
# Security headers

A wrapped mobility management message starts with six octets: header type and
discriminator, a message authentication code, and a sequence number.  In front of
two or more octets they are read as what they are.
-/

/-- The six octets in front of a wrapped mobility management message. -/
structure SecurityHeader where
  headerType : UInt8
  authenticationCode : Vector UInt8 4
  sequenceNumber : UInt8
  deriving Repr, DecidableEq

namespace SecurityHeader

def kind (header : SecurityHeader) : HeaderKind :=
  .ofHeaderType header.headerType

def octets (header : SecurityHeader) : List UInt8 :=
  (header.headerType <<< 4 ||| 0x07) ::
    (header.authenticationCode.toList ++ [header.sequenceNumber])

def envelope (header : SecurityHeader) : Envelope where
  kind := header.kind
  discriminator := 0x07
  authenticationCode := some (bigEndian header.authenticationCode.toList)
  sequenceNumber := some header.sequenceNumber
  keySet := none

/-- The header type is neither that of a plain message nor that of a service request. -/
def Wraps (header : SecurityHeader) : Prop :=
  header.headerType ≠ 0 ∧ header.headerType < 12

/-- The header protects the integrity of a payload that stays readable. -/
def LeavesPlain (header : SecurityHeader) : Prop :=
  header.headerType = 1 ∨ header.headerType = 3 ∨
    (6 ≤ header.headerType ∧ header.headerType ≤ 11)

/-- The header announces a payload that is ciphered as a whole. -/
def Ciphers (header : SecurityHeader) : Prop :=
  header.headerType = 2 ∨ header.headerType = 4

/-- The same header, which only protects integrity. -/
def uncipher (header : SecurityHeader) : SecurityHeader :=
  { header with headerType := 1 }

variable {header : SecurityHeader} {payload : List UInt8}

@[simp] theorem octets_length :
    header.octets.length = 6 := by
  simp [octets]

/-- The header type and the discriminator share the first octet. -/
theorem nibbles
    {headerType : UInt8}
    (small : headerType < 12) :
    (headerType <<< 4 ||| 0x07) >>> 4 = headerType ∧
      (headerType <<< 4 ||| 0x07) &&& 0x0F = 0x07 := by
  have every : ∀ number : Fin 12,
      (UInt8.ofNat number.val <<< 4 ||| 0x07) >>> 4 = UInt8.ofNat number.val ∧
        (UInt8.ofNat number.val <<< 4 ||| 0x07) &&& 0x0F = 0x07 := by
    decide
  have pair := every ⟨headerType.toNat, small⟩
  rwa [UInt8.ofNat_toNat] at pair

theorem ofOctets_eq
    (wraps : header.Wraps)
    (long : 2 ≤ payload.length) :
    Envelope.ofOctets false (header.octets ++ payload) = .ok header.envelope := by
  obtain ⟨wrapped, small⟩ := wraps
  obtain ⟨type_eq, discriminator_eq⟩ := nibbles small
  have length_eq : (header.octets ++ payload).length = 6 + payload.length := by
    rw [List.length_append, octets_length]
  have notService : ¬ Envelope.serviceRequestType ≤ header.headerType :=
    UInt8.not_le.mpr small
  have width : header.authenticationCode.toList.length = 4 :=
    Vector.length_toList
  have code_eq :
      ((header.octets ++ payload).drop 1).take 4 = header.authenticationCode.toList := by
    simp [octets, width]
  have number_eq : (header.octets ++ payload).getD 5 0 = header.sequenceNumber := by
    simp [octets, List.getD, width]
  have mobility : Protocol.ofDiscriminator? 0x07 = some .mobilityManagement :=
    rfl
  have long_eq : ¬ (header.octets ++ payload).length < Envelope.leastProtectedLength := by
    rw [length_eq, Envelope.leastProtectedLength]
    omega
  have read_eq :
      Envelope.ofOctets false (header.octets ++ payload) =
        .ok (Envelope.ofProtected 0x07 header.headerType (header.octets ++ payload)) := by
    rw [octets, List.cons_append] at long_eq ⊢
    simp only [Envelope.ofOctets, type_eq, Protocol.discriminatorOf, discriminator_eq, mobility,
      long_eq, notService, wrapped]
    simp
  rw [read_eq, Envelope.ofProtected, code_eq, number_eq]
  rfl

theorem LeavesPlain.wraps
    (plain : header.LeavesPlain) :
    header.Wraps := by
  rcases plain with one | three | ⟨least, most⟩
  · rw [Wraps, one]
    decide
  · rw [Wraps, three]
    decide
  · constructor
    · intro zero
      rw [zero] at least
      exact absurd least (by decide)
    · exact UInt8.lt_of_le_of_lt most (by decide)

theorem Ciphers.wraps
    (ciphers : header.Ciphers) :
    header.Wraps := by
  rcases ciphers with two | four
  · rw [Wraps, two]
    decide
  · rw [Wraps, four]
    decide

theorem LeavesPlain.kind_eq
    (plain : header.LeavesPlain) :
    header.kind = .integrityProtected ∨
      header.kind = .integrityProtectedNewContext ∨
        header.kind = .reserved header.headerType := by
  rcases plain with one | three | ⟨least, most⟩
  · left
    rw [kind, one]
    rfl
  · right
    left
    rw [kind, three]
    rfl
  · right
    right
    exact HeaderKind.ofHeaderType_eq_reserved least (UInt8.lt_of_le_of_lt most (by decide))

theorem Ciphers.kind_eq
    (ciphers : header.Ciphers) :
    header.kind = .integrityProtectedCiphered ∨
      header.kind = .integrityProtectedCipheredNewContext := by
  rcases ciphers with two | four
  · left
    rw [kind, two]
    rfl
  · right
    rw [kind, four]
    rfl

theorem uncipher_leavesPlain :
    header.uncipher.LeavesPlain :=
  .inl rfl

end SecurityHeader

end LteNas
