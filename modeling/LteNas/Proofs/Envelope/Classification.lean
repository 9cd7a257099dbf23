import LteNas.Proofs.Envelope
import LteNas.Proofs.Octets.Nibbles

namespace LteNas

/-!
# Outer headers by their first octet

The first octet, the number of unread octets and the setting decide between five
ways in which an outer header can be read.  A cursor that is moved in place moves
over a header that is reported, and stands still in front of any other message.
-/

/-- The ways in which the reading of an outer header ends. -/
inductive HeaderCase where
  | truncated
  | serviceRequest
  | wrongProtocol
  | wrapped
  | plain
  deriving Repr, DecidableEq

namespace HeaderCase

/-- The way in which a reading ended. -/
def ofOutcome : Except EnvelopeFault Envelope → HeaderCase
  | .error (.truncated _) => .truncated
  | .error (.wrongProtocol _ _) => .wrongProtocol
  | .ok envelope =>
      match envelope.kind with
      | .plain => .plain
      | .serviceRequest => .serviceRequest
      | _ => .wrapped

/-- The number of octets that are taken off the message. -/
def octetCount : HeaderCase → Nat
  | .serviceRequest => 4
  | .wrapped => 6
  | _ => 0

/-- Octets that start with a header type and a protocol discriminator. -/
def StartsWith (octets : List UInt8) (headerType discriminator : Nat) : Prop :=
  ∃ first,
    octets.head? = some first ∧
      first.toNat / 16 = headerType ∧ first.toNat % 16 = discriminator

def IsTruncated (octets : List UInt8) : Prop :=
  octets = [] ∨
    ∃ headerType, StartsWith octets headerType 7 ∧ 12 ≤ headerType ∧ octets.length < 4

def IsServiceRequest (octets : List UInt8) : Prop :=
  ∃ headerType, StartsWith octets headerType 7 ∧ 12 ≤ headerType ∧ 4 ≤ octets.length

def IsWrongProtocol (dissectPlain : Bool) (octets : List UInt8) : Prop :=
  ∃ headerType discriminator,
    StartsWith octets headerType discriminator ∧
      discriminator ≠ 2 ∧ discriminator ≠ 7 ∧ headerType ≠ 0 ∧
      8 ≤ octets.length ∧ dissectPlain = false

def IsWrapped (dissectPlain : Bool) (octets : List UInt8) : Prop :=
  ∃ headerType,
    StartsWith octets headerType 7 ∧ 1 ≤ headerType ∧ headerType ≤ 11 ∧
      8 ≤ octets.length ∧ dissectPlain = false

/-- The unread octets for which a reading ends in a way; what is nothing else is plain. -/
def Applies (dissectPlain : Bool) (octets : List UInt8) : HeaderCase → Prop
  | .truncated => IsTruncated octets
  | .serviceRequest => IsServiceRequest octets
  | .wrongProtocol => IsWrongProtocol dissectPlain octets
  | .wrapped => IsWrapped dissectPlain octets
  | .plain =>
      ¬ IsTruncated octets ∧ ¬ IsServiceRequest octets ∧
        ¬ IsWrongProtocol dissectPlain octets ∧ ¬ IsWrapped dissectPlain octets

/-! ## One way for all octets -/

section Cases

variable {dissectPlain : Bool} {octets others : List UInt8} {first : UInt8}

theorem startsWith_cons_iff
    {headerType discriminator : Nat} :
    StartsWith (first :: others) headerType discriminator ↔
      first.toNat / 16 = headerType ∧ first.toNat % 16 = discriminator := by
  simp [StartsWith]

theorem isTruncated_cons_iff :
    IsTruncated (first :: others) ↔
      first.toNat % 16 = 7 ∧ 12 ≤ first.toNat / 16 ∧ (first :: others).length < 4 := by
  simp [IsTruncated, startsWith_cons_iff, and_assoc]

theorem isServiceRequest_cons_iff :
    IsServiceRequest (first :: others) ↔
      first.toNat % 16 = 7 ∧ 12 ≤ first.toNat / 16 ∧ 4 ≤ (first :: others).length := by
  simp [IsServiceRequest, startsWith_cons_iff, and_assoc]

theorem isWrongProtocol_cons_iff :
    IsWrongProtocol dissectPlain (first :: others) ↔
      first.toNat % 16 ≠ 2 ∧ first.toNat % 16 ≠ 7 ∧ first.toNat / 16 ≠ 0 ∧
        8 ≤ (first :: others).length ∧ dissectPlain = false := by
  simp [IsWrongProtocol, startsWith_cons_iff, and_assoc]

theorem isWrapped_cons_iff :
    IsWrapped dissectPlain (first :: others) ↔
      first.toNat % 16 = 7 ∧ 1 ≤ first.toNat / 16 ∧ first.toNat / 16 ≤ 11 ∧
        8 ≤ (first :: others).length ∧ dissectPlain = false := by
  simp [IsWrapped, startsWith_cons_iff, and_assoc]

/-- No two ways apply to the same octets. -/
theorem Applies.unique
    {headerCase otherCase : HeaderCase}
    (applies : headerCase.Applies dissectPlain octets)
    (otherApplies : otherCase.Applies dissectPlain octets) :
    headerCase = otherCase := by
  cases octets with
  | nil =>
      cases headerCase <;> cases otherCase <;>
        simp_all [Applies, IsTruncated, IsServiceRequest, IsWrongProtocol, IsWrapped, StartsWith]
  | cons first others =>
      cases headerCase <;> cases otherCase <;>
        grind [Applies, isTruncated_cons_iff, isServiceRequest_cons_iff, isWrongProtocol_cons_iff,
          isWrapped_cons_iff]

end Cases

/-! ## What the first octet says -/

section FirstOctet

variable (first : UInt8)

theorem isMobility_iff :
    Protocol.ofDiscriminator? (Protocol.discriminatorOf first) = some .mobilityManagement ↔
      first.toNat % 16 = 7 := by
  revert first
  exact octet_forall (by decide +kernel)

theorem isSession_iff :
    Protocol.ofDiscriminator? (Protocol.discriminatorOf first) = some .sessionManagement ↔
      first.toNat % 16 = 2 := by
  revert first
  exact octet_forall (by decide +kernel)

theorem isServiceType_iff :
    Envelope.serviceRequestType ≤ first >>> 4 ↔ 12 ≤ first.toNat / 16 := by
  revert first
  exact octet_forall (by decide +kernel)

theorem isPlainType_iff :
    first >>> 4 = 0 ↔ first.toNat / 16 = 0 := by
  revert first
  exact octet_forall (by decide +kernel)

end FirstOctet

/-- Six octets are taken by wrapped messages alone. -/
theorem ofOutcome_of_octetCount
    {envelope : Envelope}
    (takes : envelope.kind.octetCount = 6) :
    ofOutcome (.ok envelope) = .wrapped := by
  rw [ofOutcome]
  cases kind_eq : envelope.kind <;> simp_all [HeaderKind.octetCount]

/-- The octets of a header are those that its kind takes. -/
theorem octetCount_ofOutcome
    (envelope : Envelope) :
    (ofOutcome (.ok envelope)).octetCount = envelope.kind.octetCount := by
  rw [ofOutcome]
  cases envelope.kind <;> rfl

theorem octetCount_ofOutcome_error
    (fault : EnvelopeFault) :
    (ofOutcome (.error fault)).octetCount = 0 := by
  cases fault <;> rfl

end HeaderCase

/-! ## Reading in place -/

/-- A read that moves a cursor in place: how it ends, and where it leaves the cursor. -/
abbrev CursorRead (α : Type) :=
  Window → Except EnvelopeFault α × Window

namespace CursorRead

/-- One step: if it fails, the cursor stays where it stands. -/
def step (read : Window → Except Shortage (α × Window)) : CursorRead α := fun window =>
  match read window with
  | .ok (value, after) => (.ok value, after)
  | .error shortage => (.error (.truncated shortage), window)

def done (value : α) : CursorRead α := fun window =>
  (.ok value, window)

/-- Steps behind a read.  If the read fails, the cursor stays where it has got to. -/
def andThen (read : CursorRead α) (next : α → CursorRead β) : CursorRead β := fun window =>
  match read window with
  | (.ok value, after) => next value after
  | (.error fault, after) => (.error fault, after)

/-- What a sequence of reads gives, each of them has contributed to. -/
theorem exists_of_bind_eq_ok
    {first : Except Shortage α}
    {next : α → Except Shortage β}
    {result : β}
    (found : first >>= next = .ok result) :
    ∃ value, first = .ok value ∧ next value = .ok result := by
  cases first with
  | error shortage =>
      cases found
  | ok value =>
      exact ⟨value, rfl, found⟩

end CursorRead

namespace Envelope

open CursorRead in
/-- Read the octets of a service request off a cursor. -/
def readServiceRequestInPlace (discriminator : UInt8) : CursorRead Envelope :=
  (step (·.take 4)).andThen fun front =>
    done (ofServiceRequest discriminator front)

open CursorRead in
/-- Read the octets of a protected header off a cursor, field by field. -/
def readProtectedInPlace (discriminator headerType : UInt8) : CursorRead Envelope :=
  (step Window.octet).andThen fun _ =>
  (step (·.number 4)).andThen fun authenticationCode =>
  (step Window.octet).andThen fun sequenceNumber =>
  done
    { kind := .ofHeaderType headerType
      discriminator
      authenticationCode := some authenticationCode
      sequenceNumber := some sequenceNumber
      keySet := none }

/-- Read the outer header off a cursor. -/
def readInPlace (dissectPlain : Bool) : CursorRead Envelope := fun window =>
  match window.peek? with
  | none =>
      (.error (.truncated ⟨1, 0⟩), window)
  | some first =>
      let headerType := first >>> 4
      let discriminator := Protocol.discriminatorOf first
      let protocol? := Protocol.ofDiscriminator? discriminator
      if protocol? = some .mobilityManagement ∧ serviceRequestType ≤ headerType then
        readServiceRequestInPlace discriminator window
      else if window.remaining < leastProtectedLength ∨ dissectPlain ∨ headerType = 0 ∨
          protocol? = some .sessionManagement then
        (.ok (plain discriminator), window)
      else if protocol? = some .mobilityManagement then
        readProtectedInPlace discriminator headerType window
      else
        (.error (.wrongProtocol discriminator headerType), window)

/-- Where the fields of a protected header are there, they are read in place as well. -/
theorem readProtectedInPlace_of_ok
    {discriminator headerType : UInt8}
    {window after : Window}
    {envelope : Envelope}
    (found : readProtected discriminator headerType window = .ok (envelope, after)) :
    readProtectedInPlace discriminator headerType window = (.ok envelope, after) := by
  obtain ⟨_, firstRead, found⟩ := CursorRead.exists_of_bind_eq_ok found
  obtain ⟨_, codeRead, found⟩ := CursorRead.exists_of_bind_eq_ok found
  obtain ⟨_, numberRead, found⟩ := CursorRead.exists_of_bind_eq_ok found
  cases found
  simp only [readProtectedInPlace, CursorRead.andThen, CursorRead.step, firstRead, codeRead,
    numberRead, CursorRead.done]

theorem readServiceRequestInPlace_eq
    (discriminator : UInt8)
    (window : Window) :
    readServiceRequestInPlace discriminator window =
      if 4 ≤ window.remaining then
        (.ok (ofServiceRequest discriminator window.rest), window.advance 4)
      else
        (.error (.truncated ⟨4, window.remaining⟩), window) := by
  simp only [readServiceRequestInPlace, CursorRead.andThen, CursorRead.step, Window.take_eq]
  by_cases long : 4 ≤ window.remaining
  · simp only [if_pos long, CursorRead.done, ofServiceRequest, List.take_take, Nat.min_self]
  · simp only [if_neg long]

/-- In place, a read ends alike, and one that fails leaves the cursor where it was. -/
theorem readInPlace_eq
    (dissectPlain : Bool)
    (window : Window) :
    readInPlace dissectPlain window =
      match read dissectPlain window with
      | .ok (envelope, after) => (.ok envelope, after)
      | .error fault => (.error fault, window) := by
  cases peeked : window.peek? with
  | none =>
      simp only [readInPlace, read, peeked]
  | some first =>
      simp only [readInPlace, read, peeked]
      split_ifs with service isPlain mobility
      · rw [readServiceRequestInPlace_eq, readServiceRequest_eq]
        split_ifs <;> rfl
      · rfl
      · simp only [not_or, leastProtectedLength, Nat.not_lt] at isPlain
        have found :=
          readProtected_eq (Protocol.discriminatorOf first) (first >>> 4)
            (show 6 ≤ window.remaining by omega)
        rw [readProtectedInPlace_of_ok found, found]
        rfl
      · rfl

/-! ## The octets behind the first one -/

/-- The octets that the fields of an envelope are written with, behind the first one of the header. -/
inductive Spells : Envelope → List UInt8 → Prop where
  | plain
      (discriminator : UInt8) :
      Spells (.plain discriminator) []
  | serviceRequest
      {code : Nat}
      {number keySet : UInt8}
      (discriminator : UInt8)
      (codeFits : code < 2 ^ 16)
      (numberFits : number < 32)
      (keySetFits : keySet < 8) :
      Spells ⟨.serviceRequest, discriminator, some code, some number, some keySet⟩
        ((keySet <<< 5 ||| number) :: bigEndianOctets 2 code)
  | wrapped
      {kind : HeaderKind}
      {code : Nat}
      (discriminator number : UInt8)
      (isProtected : kind.isProtected = true)
      (codeFits : code < 2 ^ 32) :
      Spells ⟨kind, discriminator, some code, some number, none⟩
        (bigEndianOctets 4 code ++ [number])

theorem isProtected_iff
    (kind : HeaderKind) :
    kind.isProtected = true ↔ kind.octetCount = 6 := by
  cases kind <;> simp [HeaderKind.isProtected, HeaderKind.octetCount]

/-- Key set and number share an octet without touching each other's bits. -/
theorem keySetOctet_eq
    (octet : UInt8) :
    octet &&& 0x1F < 32 ∧ octet >>> 5 < 8 ∧
      octet >>> 5 <<< 5 ||| octet &&& 0x1F = octet := by
  revert octet
  exact octet_forall (by decide +kernel)

theorem ofServiceRequest_spells
    (discriminator : UInt8)
    {octets : List UInt8}
    (long : 4 ≤ octets.length) :
    (ofServiceRequest discriminator octets).Spells ((octets.take 4).drop 1) := by
  match octets, long with
  | first :: second :: third :: fourth :: others, _ =>
      obtain ⟨numberFits, keySetFits, joined⟩ := keySetOctet_eq second
      have codeFits : bigEndian [third, fourth] < 2 ^ 16 := by
        simpa using bigEndian_lt [third, fourth]
      have written : bigEndianOctets 2 (bigEndian [third, fourth]) = [third, fourth] :=
        bigEndianOctets_bigEndian [third, fourth]
      have spells := Spells.serviceRequest discriminator codeFits numberFits keySetFits
      rwa [joined, written] at spells

theorem ofProtected_spells
    (discriminator : UInt8)
    {headerType : UInt8}
    {octets : List UInt8}
    (isProtected : (HeaderKind.ofHeaderType headerType).isProtected = true)
    (long : 6 ≤ octets.length) :
    (ofProtected discriminator headerType octets).Spells ((octets.take 6).drop 1) := by
  match octets, long with
  | first :: second :: third :: fourth :: fifth :: last :: others, _ =>
      have codeFits : bigEndian [second, third, fourth, fifth] < 2 ^ 32 := by
        simpa using bigEndian_lt [second, third, fourth, fifth]
      have written :
          bigEndianOctets 4 (bigEndian [second, third, fourth, fifth]) =
            [second, third, fourth, fifth] :=
        bigEndianOctets_bigEndian [second, third, fourth, fifth]
      have spells := Spells.wrapped discriminator last isProtected codeFits
      rwa [written] at spells

/-! ## The classification -/

open HeaderCase in
/-- The outcomes of reading an outer header, each with the octets for which it is the one. -/
inductive Ends
    (dissectPlain : Bool)
    (octets : List UInt8) :
    Except EnvelopeFault Envelope → Prop where
  | truncated
      {shortage : Shortage}
      (isTruncated : IsTruncated octets) :
      Ends dissectPlain octets (.error (.truncated shortage))
  | serviceRequest
      {discriminator : UInt8}
      (isServiceRequest : IsServiceRequest octets) :
      Ends dissectPlain octets (.ok (ofServiceRequest discriminator octets))
  | wrongProtocol
      {discriminator headerType : UInt8}
      (isWrongProtocol : IsWrongProtocol dissectPlain octets) :
      Ends dissectPlain octets (.error (.wrongProtocol discriminator headerType))
  | wrapped
      {discriminator headerType : UInt8}
      (takes : (HeaderKind.ofHeaderType headerType).octetCount = 6)
      (isWrapped : IsWrapped dissectPlain octets) :
      Ends dissectPlain octets (.ok (ofProtected discriminator headerType octets))
  | plain
      {discriminator : UInt8}
      (isPlain : HeaderCase.plain.Applies dissectPlain octets) :
      Ends dissectPlain octets (.ok (.plain discriminator))

open HeaderCase in
theorem ofOctets_ends
    (dissectPlain : Bool)
    (octets : List UInt8) :
    Ends dissectPlain octets (ofOctets dissectPlain octets) := by
  cases octets with
  | nil =>
      exact .truncated (.inl rfl)
  | cons first others =>
      simp only [ofOctets, isMobility_iff, isSession_iff, isServiceType_iff, isPlainType_iff,
        leastProtectedLength]
      split
      · rename_i service
        split
        · rename_i long
          exact .serviceRequest (isServiceRequest_cons_iff.mpr ⟨service.1, service.2, long⟩)
        · rename_i short
          exact .truncated
            (isTruncated_cons_iff.mpr ⟨service.1, service.2, Nat.not_le.mp short⟩)
      · rename_i notService
        split
        · apply Ends.plain
          simp only [Applies, isTruncated_cons_iff, isServiceRequest_cons_iff,
            isWrongProtocol_cons_iff, isWrapped_cons_iff]
          grind
        · rename_i notPlain
          simp only [not_or, Nat.not_lt, Bool.not_eq_true] at notPlain
          obtain ⟨long, undissected, typed, notSession⟩ := notPlain
          split
          · rename_i mobility
            have below : first.toNat / 16 ≤ 11 := by
              omega
            have notPlainType : first >>> 4 ≠ 0 := by
              rwa [ne_eq, isPlainType_iff]
            have notServiceType : ¬ serviceRequestType ≤ first >>> 4 := by
              rw [isServiceType_iff]
              omega
            exact .wrapped
              (HeaderKind.octetCount_ofHeaderType notPlainType (UInt8.not_le.mp notServiceType))
              (isWrapped_cons_iff.mpr
                ⟨mobility, Nat.one_le_iff_ne_zero.mpr typed, below, long, undissected⟩)
          · rename_i foreign
            exact .wrongProtocol
              (isWrongProtocol_cons_iff.mpr ⟨notSession, foreign, typed, long, undissected⟩)

section Ended

variable {dissectPlain : Bool} {octets : List UInt8}

theorem Ends.applies
    {outcome : Except EnvelopeFault Envelope}
    (ends : Ends dissectPlain octets outcome) :
    (HeaderCase.ofOutcome outcome).Applies dissectPlain octets := by
  cases ends with
  | truncated isTruncated =>
      exact isTruncated
  | serviceRequest isServiceRequest =>
      exact isServiceRequest
  | wrongProtocol isWrongProtocol =>
      exact isWrongProtocol
  | wrapped takes isWrapped =>
      rw [HeaderCase.ofOutcome_of_octetCount takes]
      exact isWrapped
  | plain isPlain =>
      exact isPlain

/-- The fields of an envelope are written with the octets that its header takes. -/
theorem Ends.spells
    {envelope : Envelope}
    (ends : Ends dissectPlain octets (.ok envelope)) :
    envelope.Spells ((octets.take envelope.kind.octetCount).drop 1) := by
  cases ends with
  | serviceRequest isServiceRequest =>
      obtain ⟨_, -, -, long⟩ := isServiceRequest
      exact ofServiceRequest_spells _ long
  | wrapped takes isWrapped =>
      obtain ⟨_, -, -, -, long, -⟩ := isWrapped
      simp only [ofProtected, takes]
      exact ofProtected_spells _ ((isProtected_iff _).mpr takes) (by omega)
  | plain isPlain =>
      exact .plain _

end Ended

/--
The first octet, the number of unread octets and the setting decide how an outer
header is read.  In place, the cursor moves over the octets of the header that is
reported, six of them if the header is a protected one, and stands still otherwise.
-/
theorem read_isClassified
    (dissectPlain : Bool)
    (window : Window) :
    let outcome := (read dissectPlain window).map Prod.fst
    let found := HeaderCase.ofOutcome outcome
    (∀ headerCase, found = headerCase ↔ headerCase.Applies dissectPlain window.rest) ∧
      readInPlace dissectPlain window = (outcome, window.advance found.octetCount) ∧
      ∀ envelope after,
        read dissectPlain window = .ok (envelope, after) →
          after = window.advance found.octetCount ∧
            envelope.Spells ((window.rest.take found.octetCount).drop 1) ∧
            (envelope.kind.isProtected = true ↔ after.position = window.position + 6) := by
  intro outcome found
  have ends := ofOctets_ends dissectPlain window.rest
  have outcome_eq : outcome = ofOctets dissectPlain window.rest := by
    simp only [outcome, read_eq]
    cases ofOctets dissectPlain window.rest <;> rfl
  have applies : found.Applies dissectPlain window.rest := by
    simp only [found, outcome_eq]
    exact ends.applies
  refine ⟨?_, ?_, ?_⟩
  · intro headerCase
    constructor
    · rintro rfl
      exact applies
    · exact applies.unique
  · rw [readInPlace_eq, read_eq]
    simp only [found, outcome_eq]
    cases result : ofOctets dissectPlain window.rest with
    | ok envelope =>
        simp only [Except.map, HeaderCase.octetCount_ofOutcome]
    | error fault =>
        simp only [Except.map, HeaderCase.octetCount_ofOutcome_error, Window.advance_zero]
  · intro envelope after read_eq_ok
    rw [read_eq] at read_eq_ok
    cases result : ofOctets dissectPlain window.rest with
    | error fault =>
        rw [result] at read_eq_ok
        cases read_eq_ok
    | ok reported =>
        rw [result] at read_eq_ok ends
        cases read_eq_ok
        simp only [found, outcome_eq, result, HeaderCase.octetCount_ofOutcome]
        refine ⟨trivial, ends.spells, ?_⟩
        rw [isProtected_iff, Window.advance_position]
        omega

end Envelope

end LteNas
