import LteNas.Proofs.ElementValue.Identity

namespace LteNas

/-!
# Digits of a subscriber

The identity of a subscriber is read in two ways: as a mobile identity, and as an
identity of the evolved packet system.  Both show the same digits, unless a filler
stands in place of the first digit: a mobile identity leaves it out, and the other
one shows it.
-/

namespace ElementValue

open Reader

/-- The kinds of mobile identity that consist of digits. -/
def digitIdentityKinds : List (UInt8 × String) :=
  [(1, "IMSI"), (2, "IMEI"), (3, "IMEISV")]

/-- What is shown of an identity that consists of digits. -/
def digitIdentityValue (first : UInt8) (kind : UInt8 × String) (digits : String) : Value :=
  .fields
    [ ⟨"Type of identity", .coded kind.1.toNat kind.2⟩,
      flagField "Odd/even indication" first 4,
      ⟨kind.2, .digits digits⟩ ]

section Kinds

variable {first : UInt8} {kind : UInt8 × String}

theorem codedBy_of_digits
    (known : kind ∈ digitIdentityKinds) :
    codedBy mobileIdentityKinds "Reserved" kind.1 = .coded kind.1.toNat kind.2 := by
  simp only [digitIdentityKinds, List.mem_cons, List.not_mem_nil, or_false] at known
  obtain rfl | rfl | rfl := known <;> rfl

theorem readMobileIdentityBody_of_digits
    (known : kind ∈ digitIdentityKinds)
    (kind_eq : identityKind first = kind.1)
    (start : Window) :
    readMobileIdentityBody start first = do
      return (← readMobileDigits kind.2 first, []) := by
  rw [readMobileIdentityBody, kind_eq]
  simp only [digitIdentityKinds, List.mem_cons, List.not_mem_nil, or_false] at known
  obtain rfl | rfl | rfl := known <;> rfl

/-- A mobile identity of digits is shown with all of them but a filler in front. -/
theorem mobileIdentity_reads_digits
    (known : kind ∈ digitIdentityKinds)
    (kind_eq : identityKind first = kind.1)
    (octets : List UInt8) :
    OctetDecoder.Reads mobileIdentity (first :: octets)
      (digitIdentityValue first kind (DialledDigits.textAfter first octets)) := by
  have digits :
      (readMobileDigits kind.2 first).Exhausts octets
        [⟨kind.2, .digits (DialledDigits.textAfter first octets)⟩] :=
    (rest_exhausts octets).returning _
  apply Exhausts.reporting_reads
  apply Exhausts.here
  intro start
  apply (octet_parses first).bind_exhausts
  rw [readMobileIdentityBody_of_digits known kind_eq start]
  apply (digits.returning _).bind
  rw [kind_eq, codedBy_of_digits known]
  exact (pure_parses _).exhausts

end Kinds

/--
The two readings of the identity of a subscriber show the same digits, all of them keys
of a telephone, unless the first one is a filler; this one only the reading of the
evolved packet system shows, and as none of the keys.
-/
theorem subscriberDigits_agree
    {first : UInt8}
    (subscriber : identityKind first = 1)
    (octets : List UInt8) :
    let digits := DialledDigits.textAfter first octets
    let shown := digitIdentityValue first (1, "IMSI")
    (∀ digit ∈ digits.toList, digit ∈ DialledDigits.keys) ∧
      OctetDecoder.Reads mobileIdentity (first :: octets) (shown digits) ∧
      OctetDecoder.Reads epsMobileIdentity (first :: octets)
        (shown (if highNibble first = DialledDigits.filler then "?" ++ digits else digits)) := by
  intro digits shown
  have known : (1, "IMSI") ∈ digitIdentityKinds :=
    List.mem_cons_self
  have epsReads := epsMobileIdentity_reads_digits subscriber octets
  rw [DialledDigits.textWith_eq] at epsReads
  exact ⟨fun _ => DialledDigits.mem_keys_of_mem_textAfter,
    mobileIdentity_reads_digits known subscriber octets, epsReads⟩

/-- Four keys, the first of them beside the kind, and a filler behind them. -/
theorem subscriberDigits_agree_keys :
    let first : UInt8 := 0x21
    let octets : List UInt8 := [0xBA, 0xF3]
    let shown := digitIdentityValue first (1, "IMSI")
    identityKind first = 1 ∧
      OctetDecoder.Reads mobileIdentity (first :: octets) (shown "2*#3") ∧
      OctetDecoder.Reads epsMobileIdentity (first :: octets) (shown "2*#3") := by
  intro first octets shown
  have subscriber : identityKind first = 1 := by
    decide
  have digits_eq : DialledDigits.textAfter first octets = "2*#3" := by
    decide +kernel
  have isDigit : highNibble first ≠ DialledDigits.filler := by
    decide
  obtain ⟨-, mobile, eps⟩ := subscriberDigits_agree subscriber octets
  rw [if_neg isDigit] at eps
  rw [digits_eq] at mobile eps
  exact ⟨subscriber, mobile, eps⟩

/-- With a filler in place of the first digit the two readings do not agree. -/
theorem subscriberDigits_differ_at_filler :
    let first : UInt8 := 0xF1
    let octets : List UInt8 := [0x21, 0xF3]
    let shown := digitIdentityValue first (1, "IMSI")
    identityKind first = 1 ∧
      OctetDecoder.Reads mobileIdentity (first :: octets) (shown "123") ∧
      OctetDecoder.Reads epsMobileIdentity (first :: octets) (shown "?123") ∧
      "123" ≠ "?123" ∧
      '?' ∉ DialledDigits.keys := by
  intro first octets shown
  have known : (1, "IMSI") ∈ digitIdentityKinds :=
    List.mem_cons_self
  have subscriber : identityKind first = 1 := by
    decide
  have mobile := mobileIdentity_reads_digits known subscriber octets
  have eps := epsMobileIdentity_reads_digits subscriber octets
  have mobile_eq : DialledDigits.textAfter first octets = "123" := by
    decide +kernel
  have eps_eq : DialledDigits.textWith first octets = "?123" := by
    decide +kernel
  rw [mobile_eq] at mobile
  rw [eps_eq] at eps
  exact ⟨subscriber, mobile, eps, by decide, by decide⟩

end ElementValue

end LteNas
