import LteNas.Text.Septets
import Mathlib.Data.List.GetD
import Mathlib.Data.List.Nodup
import Mathlib.Data.Nat.Digits.Defs

namespace LteNas.Text

/-!
# Packed septets

Septets lie behind one another in a row of bits, least significant bit first, and
eight bits of the row are an octet.  Octets that hold septets are unpacked to
exactly these, at each of the shifts at which a septet can lie across two octets.
-/

/-- A bit of a number is a bit of the digit in which it lies. -/
theorem testBit_ofDigits
    {width : Nat}
    (positive : 0 < width)
    {digits : List Nat}
    (small : ∀ digit ∈ digits, digit < 2 ^ width)
    (place : Nat) :
    (Nat.ofDigits (2 ^ width) digits).testBit place =
      (digits.getD (place / width) 0).testBit (place % width) := by
  induction digits generalizing place with
  | nil =>
      simp
  | cons digit digits inductionHypothesis =>
      rw [List.forall_mem_cons] at small
      rw [Nat.ofDigits_cons, Nat.add_comm, Nat.testBit_two_pow_mul_add _ small.1]
      by_cases here : place < width
      · rw [if_pos here, Nat.div_eq_of_lt here, Nat.mod_eq_of_lt here, List.getD_cons_zero]
      · obtain ⟨further, rfl⟩ := Nat.exists_eq_add_of_le (Nat.le_of_not_lt here)
        rw [if_neg here, Nat.add_sub_cancel_left, inductionHypothesis small.2,
          Nat.add_div_left _ positive, Nat.add_mod_left, List.getD_cons_succ]

/-- The number of octets that hold so many septets. -/
def packedLength (count : Nat) : Nat :=
  (7 * count + 7) / 8

/-- The number of bits that so many septets leave over in their last octet. -/
def spareBits (count : Nat) : Fin 8 :=
  ⟨8 * packedLength count - 7 * count, by rw [packedLength]; omega⟩

theorem septetCount_packedLength
    (count : Nat) :
    septetCount (packedLength count) (spareBits count) = count := by
  simp only [septetCount, spareBits, packedLength]
  omega

/--
The octets hold the septets, the bits of each behind those of the one before, the
least significant first.  Bits that are left over in the last octet are arbitrary.
-/
structure PacksSeptets (octets : List UInt8) (values : List (Fin 128)) : Prop where
  length_eq : octets.length = packedLength values.length
  bit_eq : ∀ place < 7 * values.length,
    (octets.getD (place / 8) 0).toNat.testBit (place % 8) =
      (values.getD (place / 7) 0).val.testBit (place % 7)

/-! ## Unpacking -/

theorem testBit_littleEndian
    (octets : List UInt8)
    (place : Nat) :
    (littleEndian octets).testBit place =
      (octets.getD (place / 8) 0).toNat.testBit (place % 8) := by
  have digits : littleEndian octets = Nat.ofDigits (2 ^ 8) (octets.map UInt8.toNat) := by
    rw [Nat.ofDigits_eq_foldr, List.foldr_map]
    rfl
  have small : ∀ digit ∈ octets.map UInt8.toNat, digit < 2 ^ 8 := by
    rw [List.forall_mem_map]
    exact fun octet _ => octet.toNat_lt
  have positive : 0 < 8 := by
    decide
  have zero : (0 : UInt8).toNat = 0 :=
    rfl
  rw [digits, testBit_ofDigits positive small, ← zero, List.getD_map]

@[simp] theorem septets_length
    (count number : Nat) :
    (septets count number).length = count := by
  induction count generalizing number with
  | zero =>
      rfl
  | succ count inductionHypothesis =>
      rw [septets, List.length_cons, inductionHypothesis]

theorem septets_getElem
    (count number index : Nat)
    (within : index < (septets count number).length) :
    (septets count number)[index] = number / 128 ^ index % 128 := by
  induction count generalizing number index with
  | zero =>
      exact absurd within (Nat.not_lt_zero index)
  | succ count inductionHypothesis =>
      cases index with
      | zero =>
          simp [septets]
      | succ index =>
          simp only [septets, List.getElem_cons_succ, inductionHypothesis]
          rw [Nat.div_div_eq_div_mul, Nat.pow_succ']

/-- Octets that hold septets are unpacked to these. -/
theorem PacksSeptets.septets_eq
    {octets : List UInt8}
    {values : List (Fin 128)}
    (packs : PacksSeptets octets values) :
    septets values.length (littleEndian octets) = values.map Fin.val := by
  refine List.ext_getElem (by simp) fun index within within' => ?_
  have inside : index < values.length := by
    simpa using within
  rw [septets_getElem, List.getElem_map]
  refine Nat.eq_of_testBit_eq fun bit => ?_
  have base_eq : 128 ^ index = 2 ^ (7 * index) := by
    rw [Nat.pow_mul]
  have lowest := Nat.testBit_mod_two_pow (littleEndian octets / 2 ^ (7 * index)) 7 bit
  rw [base_eq, lowest, Nat.testBit_div_two_pow, testBit_littleEndian]
  by_cases low : bit < 7
  · have index_eq : (bit + 7 * index) / 7 = index := by
      omega
    have bit_eq : (bit + 7 * index) % 7 = bit := by
      omega
    have packed := packs.bit_eq (bit + 7 * index) (by omega)
    rw [index_eq, bit_eq, List.getD_eq_getElem _ _ inside] at packed
    rw [packed, decide_eq_true low, Bool.true_and]
  · have least : 2 ^ 7 ≤ 2 ^ bit :=
      Nat.pow_le_pow_right Nat.two_pos (Nat.le_of_not_lt low)
    have high : values[index].val.testBit bit = false :=
      Nat.testBit_lt_two_pow (Nat.lt_of_lt_of_le values[index].isLt least)
    rw [high, decide_eq_false low, Bool.false_and]

/-! ## Packing -/

/-- The octets that hold septets, with zeros in the bits that are left over. -/
def packSeptets (values : List (Fin 128)) : List UInt8 :=
  (List.range (packedLength values.length)).map fun place =>
    UInt8.ofNat (Nat.ofDigits (2 ^ 7) (values.map Fin.val) / 256 ^ place)

/-- Septets of any number have octets that hold them. -/
theorem packSeptets_packs
    (values : List (Fin 128)) :
    PacksSeptets (packSeptets values) values where
  length_eq := by
    rw [packSeptets, List.length_map, List.length_range]
  bit_eq place within := by
    have small : ∀ digit ∈ values.map Fin.val, digit < 2 ^ 7 := by
      rw [List.forall_mem_map]
      exact fun value _ => value.isLt
    have octet_within : place / 8 < packedLength values.length := by
      rw [packedLength]
      omega
    have base_eq : 256 ^ (place / 8) = 2 ^ (8 * (place / 8)) := by
      rw [Nat.pow_mul]
    have place_eq : place % 8 + 8 * (place / 8) = place :=
      Nat.mod_add_div place 8
    have positive : 0 < 7 := by
      decide
    have zero : (0 : Fin 128).val = 0 :=
      rfl
    have octet_eq :
        (packSeptets values).getD (place / 8) 0 =
          UInt8.ofNat (Nat.ofDigits (2 ^ 7) (values.map Fin.val) / 256 ^ (place / 8)) := by
      rw [packSeptets, List.getD_eq_getElem _ _ (by simpa using octet_within), List.getElem_map,
        List.getElem_range]
    rw [octet_eq, UInt8.toNat_ofNat', Nat.testBit_mod_two_pow, base_eq, Nat.testBit_div_two_pow,
      place_eq, testBit_ofDigits positive small, ← zero, List.getD_map]
    simp [Nat.mod_lt]

/-! ## Characters -/

/-- The text that septets stand for. -/
def septetText (values : List (Fin 128)) : String :=
  String.ofList (values.map fun value => septetCharacter value.val)

theorem PacksSeptets.unpackSeptets_eq
    {octets : List UInt8}
    {values : List (Fin 128)}
    (packs : PacksSeptets octets values) :
    unpackSeptets octets values.length = septetText values := by
  rw [unpackSeptets, packs.septets_eq, List.map_map]
  rfl

/-- No character of the alphabet stands for two septets. -/
theorem septetCharacter_injective :
    Function.Injective fun value : Fin 128 => septetCharacter value.val := by
  -- numbers are compared faster than characters
  have numbers : (defaultAlphabet.map Char.toNat).Nodup := by
    decide +kernel
  have distinct : defaultAlphabet.Nodup :=
    List.Nodup.of_map Char.toNat numbers
  have complete : defaultAlphabet.length = 128 :=
    rfl
  intro first second same
  have within (value : Fin 128) : value.val < defaultAlphabet.length := by
    rw [complete]
    exact value.isLt
  dsimp only [septetCharacter] at same
  rw [List.getD_eq_getElem _ _ (within first), List.getD_eq_getElem _ _ (within second)] at same
  exact Fin.ext (distinct.getElem_inj_iff.mp same)

/-- Different septets are different texts. -/
theorem septetText_injective :
    Function.Injective septetText := by
  intro first second same
  exact List.map_injective_iff.mpr septetCharacter_injective (String.ofList_injective same)

end LteNas.Text
