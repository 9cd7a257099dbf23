import LteNas.Envelope
import LteNas.Proofs.Octets.Window

namespace LteNas

/-!
# Reading the outer header

The outer header is decided by the unread octets, and it takes as many octets
as its kind says: none, the four of a service request, or the six in front of a
protected message.
-/

/-- The number of octets that a header takes off the message. -/
def HeaderKind.octetCount : HeaderKind → Nat
  | .plain => 0
  | .serviceRequest => 4
  | _ => 6

/-- A header type between those of plain messages and of service requests is that of a protected one. -/
theorem HeaderKind.octetCount_ofHeaderType
    {headerType : UInt8}
    (notPlain : headerType ≠ 0)
    (notServiceRequest : headerType < 12) :
    (ofHeaderType headerType).octetCount = 6 := by
  have positive : headerType.toNat ≠ 0 := by
    intro zero
    exact notPlain (UInt8.toNat_inj.mp zero)
  have small : headerType.toNat < 12 :=
    notServiceRequest
  rw [ofHeaderType]
  split
  · contradiction
  · rfl
  · rfl
  · rfl
  · rfl
  · rfl
  · rw [if_neg (by omega)]
    rfl

/-- The other header types of protected messages are reserved. -/
theorem HeaderKind.ofHeaderType_eq_reserved
    {headerType : UInt8}
    (least : 6 ≤ headerType)
    (most : headerType < 12) :
    ofHeaderType headerType = .reserved headerType := by
  have least : 6 ≤ headerType.toNat :=
    least
  have most : headerType.toNat < 12 :=
    most
  rw [ofHeaderType]
  split
  · omega
  · omega
  · omega
  · omega
  · omega
  · omega
  · rw [if_neg (by omega)]

namespace Envelope

/-- The envelope of the four octets of a service request. -/
def ofServiceRequest (discriminator : UInt8) (octets : List UInt8) : Envelope where
  kind := .serviceRequest
  discriminator := discriminator
  authenticationCode := some (bigEndian ((octets.take 4).drop 2))
  sequenceNumber := some ((octets.take 4).getD 1 0 &&& 0x1F)
  keySet := some ((octets.take 4).getD 1 0 >>> 5)

/-- The envelope of the six octets of a protected header. -/
def ofProtected (discriminator headerType : UInt8) (octets : List UInt8) : Envelope where
  kind := .ofHeaderType headerType
  discriminator := discriminator
  authenticationCode := some (bigEndian ((octets.drop 1).take 4))
  sequenceNumber := some (octets.getD 5 0)
  keySet := none

theorem readServiceRequest_eq
    (discriminator : UInt8)
    (window : Window) :
    readServiceRequest discriminator window =
      if 4 ≤ window.remaining then
        .ok (ofServiceRequest discriminator window.rest, window.advance 4)
      else
        .error ⟨4, window.remaining⟩ := by
  rw [readServiceRequest, Window.take_eq]
  split <;> rfl

theorem readProtected_eq
    (discriminator headerType : UInt8)
    {window : Window}
    (long : 6 ≤ window.remaining) :
    readProtected discriminator headerType window =
      .ok (ofProtected discriminator headerType window.rest, window.advance 6) := by
  rw [Window.remaining] at long
  obtain ⟨first, behind, shape⟩ : ∃ first behind, window.rest = first :: behind :=
    List.exists_cons_of_length_pos (by omega)
  have behind_length : 5 ≤ behind.length := by
    rw [shape, List.length_cons] at long
    omega
  have behind_rest : (window.advance 1).rest = behind := by
    simp [shape]
  obtain ⟨last, others, lastShape⟩ : ∃ last others, behind.drop 4 = last :: others :=
    List.exists_cons_of_length_pos (by rw [List.length_drop]; omega)
  have last_rest : ((window.advance 1).advance 4).rest = last :: others := by
    rw [Window.advance_rest, behind_rest, lastShape]
  have last_eq : window.rest.getD 5 0 = last := by
    have at_last : (behind.drop 4)[0]? = some last := by
      rw [lastShape]
      rfl
    rw [List.getElem?_drop] at at_last
    simp [shape, List.getD, at_last]
  have fits : 4 ≤ (window.advance 1).remaining := by
    rw [Window.remaining, behind_rest]
    omega
  simp only [readProtected, Window.octet_of_cons shape, Bind.bind, Except.bind,
    Window.number_eq, if_pos fits, Window.octet_of_cons last_rest, behind_rest]
  rw [Window.advance_advance, Window.advance_advance, ofProtected, last_eq, shape]
  rfl

/-- The envelope in front of octets, if there is one. -/
def ofOctets (dissectPlain : Bool) (octets : List UInt8) : Except EnvelopeFault Envelope :=
  match octets with
  | [] =>
      .error (.truncated ⟨1, 0⟩)
  | first :: _ =>
      let headerType := first >>> 4
      let discriminator := Protocol.discriminatorOf first
      let protocol? := Protocol.ofDiscriminator? discriminator
      if protocol? = some .mobilityManagement ∧ serviceRequestType ≤ headerType then
        if 4 ≤ octets.length then
          .ok (ofServiceRequest discriminator octets)
        else
          .error (.truncated ⟨4, octets.length⟩)
      else if octets.length < leastProtectedLength ∨ dissectPlain ∨ headerType = 0 ∨
          protocol? = some .sessionManagement then
        .ok (plain discriminator)
      else if protocol? = some .mobilityManagement then
        .ok (ofProtected discriminator headerType octets)
      else
        .error (.wrongProtocol discriminator headerType)

/-- The outer header is decided by the unread octets. -/
theorem read_eq
    (dissectPlain : Bool)
    (window : Window) :
    read dissectPlain window =
      (ofOctets dissectPlain window.rest).map fun envelope =>
        (envelope, window.advance envelope.kind.octetCount) := by
  cases shape : window.rest with
  | nil =>
      simp only [read, Window.peek?, shape]
      rfl
  | cons first others =>
      have length_eq : (first :: others).length = window.remaining := by
        rw [Window.remaining, shape]
      simp only [read, Window.peek?, shape, List.head?_cons, ofOctets, length_eq]
      split
      · rw [readServiceRequest_eq, ← shape]
        split <;> rfl
      · rename_i notService
        split
        · simp [Except.map, plain, HeaderKind.octetCount]
        · rename_i notPlain
          simp only [not_or, leastProtectedLength, Nat.not_lt] at notPlain
          obtain ⟨long, -, headerTyped, -⟩ := notPlain
          split
          · rename_i mobility
            have small : first >>> 4 < 12 := by
              simpa [mobility, serviceRequestType] using notService
            rw [readProtected_eq _ _ (by omega), ← shape]
            simp only [orTruncated, Except.mapError, Except.map, ofProtected,
              HeaderKind.octetCount_ofHeaderType headerTyped small]
          · rfl

/-- A header is among the octets. -/
theorem octetCount_le
    {dissectPlain : Bool}
    {octets : List UInt8}
    {envelope : Envelope}
    (found : ofOctets dissectPlain octets = .ok envelope) :
    envelope.kind.octetCount ≤ octets.length := by
  cases octets with
  | nil =>
      cases found
  | cons first others =>
      simp only [ofOctets] at found
      split at found
      · split at found
        · cases found
          assumption
        · cases found
      · split at found
        · cases found
          exact Nat.zero_le _
        · rename_i notPlain
          simp only [not_or, leastProtectedLength, Nat.not_lt] at notPlain
          split at found
          · cases found
            have most : ∀ kind : HeaderKind, kind.octetCount ≤ 6 := by
              intro kind
              cases kind <;> simp [HeaderKind.octetCount]
            exact Nat.le_trans (most _) (by omega)
          · cases found

end Envelope

end LteNas
