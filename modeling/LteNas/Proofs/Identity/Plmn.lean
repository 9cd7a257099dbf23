import LteNas.ElementValue.Identity
import LteNas.Proofs.Element.Parsing
import LteNas.Proofs.Octets.Nibbles

namespace LteNas

/-!
# Reading network identities

A network identity is read back from its octets if each of its codes fits into
its digits.
-/

namespace Plmn

/-- Both codes fit into their digits, of which a short network code has two. -/
structure FitsDigits (plmn : Plmn) : Prop where
  countryCode_lt : plmn.countryCode < 1000
  networkCode_lt : plmn.networkCode < if plmn.hasLongNetworkCode then 1000 else 100

theorem digitAt_toNat
    (number power : Nat) :
    (digitAt number power).toNat = number / power % 10 := by
  have small : number / power % 10 < 256 := by
    omega
  rw [digitAt, UInt8.toNat_ofNat', Nat.mod_eq_of_lt small]

theorem digitAt_lt_ten
    (number power : Nat) :
    digitAt number power < 10 := by
  have small : (digitAt number power).toNat < 10 := by
    rw [digitAt_toNat]
    omega
  exact small

theorem digitAt_lt
    (number power : Nat) :
    digitAt number power < 16 :=
  Nat.lt_trans (digitAt_lt_ten number power) (by decide)

/-- Three digits spell the number that they are the digits of. -/
theorem threeDigits_digitAt
    {number : Nat}
    (fits : number < 1000) :
    threeDigits (digitAt number 100) (digitAt number 10) (digitAt number 1) = number := by
  simp only [threeDigits, digitAt_toNat]
  omega

theorem twoDigits_digitAt
    {number : Nat}
    (fits : number < 100) :
    10 * (digitAt number 10).toNat + (digitAt number 1).toNat = number := by
  simp only [digitAt_toNat]
  omega

/-- A digit is no filler. -/
theorem digitAt_ne_filler
    (number power : Nat) :
    digitAt number power ≠ filler := by
  intro same
  have small := digitAt_lt_ten number power
  rw [same] at small
  exact absurd small (by decide)

/-- The halves of three octets are the digits of both codes. -/
theorem ofOctets_joined
    {country1 country2 country3 network1 network2 network3 : UInt8}
    (country1_lt : country1 < 16)
    (country2_lt : country2 < 16)
    (country3_lt : country3 < 16)
    (network1_lt : network1 < 16)
    (network2_lt : network2 < 16)
    (network3_lt : network3 < 16) :
    ofOctets (joinNibbles country2 country1) (joinNibbles network3 country3)
        (joinNibbles network2 network1) =
      if network3 = filler then
        ⟨threeDigits country1 country2 country3,
          10 * network1.toNat + network2.toNat, false⟩
      else
        ⟨threeDigits country1 country2 country3,
          threeDigits network1 network2 network3, true⟩ := by
  rw [ofOctets, highNibble_joinNibbles country2_lt country1_lt,
    lowNibble_joinNibbles country2_lt country1_lt, highNibble_joinNibbles network3_lt country3_lt,
    lowNibble_joinNibbles network3_lt country3_lt, highNibble_joinNibbles network2_lt network1_lt,
    lowNibble_joinNibbles network2_lt network1_lt]

/-- A network identity whose codes fit is read back. -/
theorem ofOctets_toOctets
    {plmn : Plmn}
    (fits : plmn.FitsDigits) :
    ∃ octet1 octet2 octet3,
      plmn.toOctets = [octet1, octet2, octet3] ∧ ofOctets octet1 octet2 octet3 = plmn := by
  obtain ⟨country, network, isLong⟩ := plmn
  obtain ⟨country_lt, network_lt⟩ := fits
  have small := digitAt_lt
  cases isLong with
  | true =>
      have read :=
        ofOctets_joined (small country 100) (small country 10) (small country 1)
          (small network 100) (small network 10) (small network 1)
      rw [if_neg (digitAt_ne_filler network 1), threeDigits_digitAt country_lt,
        threeDigits_digitAt network_lt] at read
      exact ⟨_, _, _, rfl, read⟩
  | false =>
      have read :=
        ofOctets_joined (small country 100) (small country 10) (small country 1)
          (small network 10) (small network 1) (show filler < 16 by decide)
      rw [if_pos rfl, threeDigits_digitAt country_lt, twoDigits_digitAt network_lt] at read
      exact ⟨_, _, _, rfl, read⟩

end Plmn

/-- Any three octets are read as a network identity. -/
theorem ElementValue.readPlmn_parses_octets
    (octet1 octet2 octet3 : UInt8) :
    readPlmn.Parses [octet1, octet2, octet3] (.ofOctets octet1 octet2 octet3) :=
  ((Reader.octets_parses [octet1, octet2, octet3]).returning _).returning _

theorem ElementValue.readPlmn_parses
    {plmn : Plmn}
    (fits : plmn.FitsDigits) :
    readPlmn.Parses plmn.toOctets plmn := by
  obtain ⟨octet1, octet2, octet3, octets_eq, read⟩ := Plmn.ofOctets_toOctets fits
  have parses := readPlmn_parses_octets octet1 octet2 octet3
  rwa [read, ← octets_eq] at parses

end LteNas
