import LteNas.Identity.Plmn
import Mathlib.Algebra.Group.Nat.Defs

namespace LteNas

/-!
# Single octets and their halves

There are few octets, so what can be tested of each of them is decided.
-/

/-- What holds of the octets of all small numbers holds of every octet. -/
theorem octet_forall
    {property : UInt8 → Prop}
    (holds : ∀ number : Fin 256, property (UInt8.ofNat number))
    (octet : UInt8) :
    property octet := by
  have held := holds ⟨octet.toNat, octet.toNat_lt⟩
  rwa [UInt8.ofNat_toNat] at held

/-- The low bits of an octet are what is left of it by a power of two. -/
theorem lowBits_toNat
    {mask : UInt8}
    (count : Nat)
    (mask_eq : mask.toNat = 2 ^ count - 1)
    (octet : UInt8) :
    (octet &&& mask).toNat = octet.toNat % 2 ^ count := by
  rw [UInt8.toNat_and, mask_eq, Nat.and_two_pow_sub_one_eq_mod]

theorem halves_of_joinNibbles :
    ∀ high low : Fin 16,
      let octet := joinNibbles (UInt8.ofNat high) (UInt8.ofNat low)
      highNibble octet = UInt8.ofNat high ∧ lowNibble octet = UInt8.ofNat low := by
  decide +kernel

/-- An octet is made of its halves. -/
theorem joinNibbles_halves :
    ∀ octet : UInt8, joinNibbles (highNibble octet) (lowNibble octet) = octet :=
  octet_forall (by decide +kernel)

theorem lowNibble_lt :
    ∀ octet : UInt8, lowNibble octet < 16 :=
  octet_forall (by decide +kernel)

theorem highNibble_lt :
    ∀ octet : UInt8, highNibble octet < 16 :=
  octet_forall (by decide +kernel)

section Halves

variable {high low : UInt8}

theorem highNibble_joinNibbles
    (highSmall : high < 16)
    (lowSmall : low < 16) :
    highNibble (joinNibbles high low) = high := by
  simpa using (halves_of_joinNibbles ⟨high.toNat, highSmall⟩ ⟨low.toNat, lowSmall⟩).1

theorem lowNibble_joinNibbles
    (highSmall : high < 16)
    (lowSmall : low < 16) :
    lowNibble (joinNibbles high low) = low := by
  simpa using (halves_of_joinNibbles ⟨high.toNat, highSmall⟩ ⟨low.toNat, lowSmall⟩).2

end Halves

end LteNas
