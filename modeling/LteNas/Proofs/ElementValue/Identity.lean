import LteNas.Proofs.Element.Regular
import LteNas.Proofs.Identity.DialledDigits
import LteNas.Proofs.Identity.Plmn

namespace LteNas

/-!
# Reading identities

An identity of the evolved packet system, temporary or of digits, is read back
from its octets.
-/

/-- The identity with which a subscriber asks for a registration. -/
inductive EpsIdentity where
  /-- A globally unique identity that the network of an entity once gave. -/
  | temporary (plmn : Plmn) (group : UInt16) (code : UInt8) (number : UInt32)
  /-- Decimal digits, of which there is at least one. -/
  | subscriber (first : Fin 10) (others : List (Fin 10))

namespace EpsIdentity

/-- The digits in octets of two, the first beside the type of the identity. -/
def digitOctets (first : Fin 10) (others : List (Fin 10)) : List UInt8 :=
  let isOdd := others.length % 2 == 0
  joinNibbles (UInt8.ofNat first) (if isOdd then 0x9 else 0x1) ::
    DialledDigits.pack (others.map fun digit => UInt8.ofNat digit.val)

def octets : EpsIdentity → List UInt8
  | .temporary plmn group code number =>
      0xF6 :: (plmn.toOctets ++ (bigEndianOctets 2 group.toNat ++
        (bigEndianOctets 1 code.toNat ++ bigEndianOctets 4 number.toNat)))
  | .subscriber first others =>
      digitOctets first others

/-- The digits of a subscriber as text. -/
def digitText (first : Fin 10) (others : List (Fin 10)) : String :=
  String.ofList ((first :: others).map fun digit => Nat.digitChar digit.val)

/-- What is shown of an identity. -/
def value : EpsIdentity → Value
  | .temporary plmn group code number =>
      .fields
        [ ⟨"Type of identity", .coded 6 "GUTI"⟩,
          ⟨"Odd/even indication", .flag false⟩,
          ⟨"PLMN", .plmn plmn⟩,
          numberField "MME Group ID" group.toNat,
          numberField "MME Code" code.toNat,
          numberField "M-TMSI" number.toNat ]
  | .subscriber first others =>
      .fields
        [ ⟨"Type of identity", .coded 1 "IMSI"⟩,
          ⟨"Odd/even indication", .flag (others.length % 2 == 0)⟩,
          ⟨"IMSI", .digits (digitText first others)⟩ ]

/-- The identity is written with decimal digits and fits into an element. -/
def Fits : EpsIdentity → Prop
  | .temporary plmn _ _ _ => plmn.FitsDigits
  | .subscriber first others => (digitOctets first others).length < 256

theorem Fits.length_lt
    {identity : EpsIdentity}
    (fits : identity.Fits) :
    identity.octets.length < 256 := by
  cases identity with
  | temporary plmn group code number =>
      have plmn_length : plmn.toOctets.length = 3 :=
        rfl
      simp [octets, plmn_length]
  | subscriber first others =>
      exact fits

/-- An identity carries no message. -/
theorem value_isPlain
    (identity : EpsIdentity) :
    identity.value.IsPlain := by
  cases identity with
  | temporary plmn group code number =>
      simp [value]
  | subscriber first others =>
      simp [value]

end EpsIdentity

namespace ElementValue

open Reader

theorem readTemporaryIdentity_exhausts
    {plmn : Plmn}
    (fits : plmn.FitsDigits)
    (group : UInt16)
    (code : UInt8)
    (number : UInt32) :
    readTemporaryIdentity.Exhausts
      (plmn.toOctets ++ (bigEndianOctets 2 group.toNat ++
        (bigEndianOctets 1 code.toNat ++ bigEndianOctets 4 number.toNat)))
      [ ⟨"PLMN", .plmn plmn⟩,
        numberField "MME Group ID" group.toNat,
        numberField "MME Code" code.toNat,
        numberField "M-TMSI" number.toNat ] := by
  have plmn_length : plmn.toOctets.length = 3 :=
    rfl
  apply Exhausts.expectExactly (by simp [plmn_length])
  apply (readPlmn_parses fits).bind_exhausts
  apply (number_parses group.toNat_lt).bind_exhausts
  apply (number_parses code.toNat_lt).bind_exhausts
  exact ((number_parses number.toNat_lt).returning _).exhausts

/-- The kinds of identity of the evolved packet system that consist of digits. -/
def epsDigitKinds : List (UInt8 × String) :=
  [(1, "IMSI"), (3, "IMEI")]

section Digits

variable {first : UInt8} {kind : UInt8 × String}

theorem readEpsIdentityBody_of_digits
    (known : kind ∈ epsDigitKinds)
    (kind_eq : identityKind first = kind.1)
    (start : Window) :
    readEpsIdentityBody start first = do
      return (← readEpsDigits kind.2 first, []) := by
  rw [readEpsIdentityBody, kind_eq]
  simp only [epsDigitKinds, List.mem_cons, List.not_mem_nil, or_false] at known
  obtain rfl | rfl := known <;> rfl

theorem codedBy_of_epsDigits
    (known : kind ∈ epsDigitKinds) :
    codedBy epsIdentityKinds "Reserved" kind.1 = .coded kind.1.toNat kind.2 := by
  simp only [epsDigitKinds, List.mem_cons, List.not_mem_nil, or_false] at known
  obtain rfl | rfl := known <;> rfl

/-- An identity that consists of digits is shown with all of them. -/
theorem epsMobileIdentity_reads_kind
    (known : kind ∈ epsDigitKinds)
    (kind_eq : identityKind first = kind.1)
    (octets : List UInt8) :
    OctetDecoder.Reads epsMobileIdentity (first :: octets)
      (.fields
        [ ⟨"Type of identity", .coded kind.1.toNat kind.2⟩,
          flagField "Odd/even indication" first 4,
          ⟨kind.2, .digits (DialledDigits.textWith first octets)⟩ ]) := by
  have digits :
      (readEpsDigits kind.2 first).Exhausts octets
        [⟨kind.2, .digits (DialledDigits.textWith first octets)⟩] :=
    (rest_exhausts octets).returning _
  apply Exhausts.reporting_reads
  apply Exhausts.here
  intro start
  apply (octet_parses first).bind_exhausts
  rw [readEpsIdentityBody_of_digits known kind_eq start]
  apply (digits.returning _).bind
  rw [kind_eq, codedBy_of_epsDigits known]
  exact (pure_parses _).exhausts

/-- The identity of a subscriber is shown with all its digits. -/
theorem epsMobileIdentity_reads_digits
    (kind_eq : identityKind first = 1)
    (octets : List UInt8) :
    OctetDecoder.Reads epsMobileIdentity (first :: octets)
      (.fields
        [ ⟨"Type of identity", .coded 1 "IMSI"⟩,
          flagField "Odd/even indication" first 4,
          ⟨"IMSI", .digits (DialledDigits.textWith first octets)⟩ ]) :=
  have known : (1, "IMSI") ∈ epsDigitKinds :=
    List.mem_cons_self
  epsMobileIdentity_reads_kind known kind_eq octets

end Digits

theorem epsMobileIdentity_reads_temporary
    {plmn : Plmn}
    (fits : plmn.FitsDigits)
    (group : UInt16)
    (code : UInt8)
    (number : UInt32) :
    OctetDecoder.Reads epsMobileIdentity
      (EpsIdentity.temporary plmn group code number).octets
      (EpsIdentity.temporary plmn group code number).value := by
  have parts := readTemporaryIdentity_exhausts fits group code number
  apply Exhausts.reporting_reads
  apply Exhausts.here
  intro start
  apply (octet_parses 0xF6).bind_exhausts
  exact (parts.returning fun parts => (parts, [])).bind (pure_parses _).exhausts

/-- The first octet of an identity of digits tells their kind and whether they are odd. -/
theorem digitOctet_tells :
    ∀ (first : Fin 10) (isOdd : Bool),
      let octet := joinNibbles (UInt8.ofNat first) (if isOdd then 0x9 else 0x1)
      identityKind octet = 1 ∧ bit octet 4 = isOdd := by
  decide

theorem textWith_digitOctets
    (first : Fin 10)
    (others : List (Fin 10))
    {low : UInt8}
    (lowSmall : low < 16) :
    DialledDigits.textWith (joinNibbles (UInt8.ofNat first) low)
        (DialledDigits.pack (others.map fun digit => UInt8.ofNat digit.val)) =
      EpsIdentity.digitText first others := by
  have isDigit := DialledDigits.character_digit
  rw [DialledDigits.textWith_pack (isDigit first).1 lowSmall, EpsIdentity.digitText]
  · rw [List.map_cons, List.map_cons, List.map_map, (isDigit first).2]
    exact congrArg (fun text => String.ofList (_ :: text))
      (List.map_congr_left fun digit _ => (isDigit digit).2)
  · intro nibble member
    obtain ⟨digit, -, rfl⟩ := List.mem_map.mp member
    exact (isDigit digit).1

/-- An identity is read back from its octets. -/
theorem epsMobileIdentity_reads
    {identity : EpsIdentity}
    (fits : identity.Fits) :
    OctetDecoder.Reads epsMobileIdentity identity.octets identity.value := by
  cases identity with
  | temporary plmn group code number =>
      exact epsMobileIdentity_reads_temporary fits group code number
  | subscriber first others =>
      obtain ⟨kind_eq, parity_eq⟩ := digitOctet_tells first (others.length % 2 == 0)
      have lowSmall : (if others.length % 2 == 0 then (0x9 : UInt8) else 0x1) < 16 := by
        split <;> decide
      have reads :=
        epsMobileIdentity_reads_digits kind_eq
          (DialledDigits.pack (others.map fun digit => UInt8.ofNat digit.val))
      rwa [flagField, parity_eq, textWith_digitOctets first others lowSmall] at reads

end ElementValue

end LteNas
