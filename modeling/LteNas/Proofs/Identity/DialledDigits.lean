import LteNas.Identity.DialledDigits
import LteNas.Proofs.Octets.Nibbles
import Mathlib.Data.List.TakeWhile

namespace LteNas.DialledDigits

/-!
# Reading dialled digits

Digits that were packed two to an octet are read back, whether or not a filler
completes the last octet.  What is read of any octets are keys of a telephone; only
a first digit that is a filler can be shown as something else.
-/

/-- Two digits to an octet, the first in the low half; a filler completes the last octet. -/
def pack : List UInt8 → List UInt8
  | [] =>
      []
  | [last] =>
      [joinNibbles filler last]
  | first :: second :: others =>
      joinNibbles second first :: pack others

theorem filler_lt :
    filler < 16 := by
  decide

theorem nibbles_cons
    {high low : UInt8}
    (highSmall : high < 16)
    (lowSmall : low < 16)
    (octets : List UInt8) :
    nibbles (joinNibbles high low :: octets) = low :: high :: nibbles octets := by
  rw [nibbles, List.flatMap_cons, lowNibble_joinNibbles highSmall lowSmall,
    highNibble_joinNibbles highSmall lowSmall]
  rfl

/-- A digit is less than the filler, and so is every digit of a list of them. -/
theorem lt_of_lt_filler
    {digit : UInt8}
    (small : digit < filler) :
    digit < 16 ∧ (digit != filler) = true := by
  refine ⟨Nat.lt_trans small filler_lt, ?_⟩
  rw [bne_iff_ne]
  rintro rfl
  exact Nat.lt_irrefl _ small

/-- Digits that were packed are those in front of the first filler. -/
theorem takeWhile_nibbles_pack
    {digits : List UInt8}
    (small : ∀ digit ∈ digits, digit < filler) :
    (nibbles (pack digits)).takeWhile (· != filler) = digits := by
  fun_induction pack digits with
  | case1 =>
      rfl
  | case2 last =>
      obtain ⟨last_lt, isDigit⟩ := lt_of_lt_filler (small last List.mem_cons_self)
      rw [nibbles_cons filler_lt last_lt, List.takeWhile_cons, if_pos isDigit]
      rfl
  | case3 first second others inductionHypothesis =>
      rw [List.forall_mem_cons, List.forall_mem_cons] at small
      obtain ⟨firstSmall, secondSmall, othersSmall⟩ := small
      obtain ⟨first_lt, firstIsDigit⟩ := lt_of_lt_filler firstSmall
      obtain ⟨second_lt, secondIsDigit⟩ := lt_of_lt_filler secondSmall
      rw [nibbles_cons second_lt first_lt, List.takeWhile_cons, if_pos firstIsDigit,
        List.takeWhile_cons, if_pos secondIsDigit, inductionHypothesis othersSmall]

theorem ofOctets_pack
    {digits : List UInt8}
    (small : ∀ digit ∈ digits, digit < filler) :
    ofOctets (pack digits) = digits.map character := by
  rw [ofOctets, takeWhile_nibbles_pack small]

/-- A first digit shares its octet with other things, and the others follow it. -/
theorem textWith_pack
    {first low : UInt8}
    {others : List UInt8}
    (firstSmall : first < filler)
    (lowSmall : low < 16)
    (small : ∀ digit ∈ others, digit < filler) :
    textWith (joinNibbles first low) (pack others) =
      String.ofList ((first :: others).map character) := by
  obtain ⟨first_lt, -⟩ := lt_of_lt_filler firstSmall
  rw [textWith, highNibble_joinNibbles first_lt lowSmall, ofOctets_pack small, List.map_cons]

/-- A decimal digit is dialled as itself. -/
theorem character_digit :
    ∀ digit : Fin 10,
      UInt8.ofNat digit < filler ∧ character (UInt8.ofNat digit) = Nat.digitChar digit := by
  decide

/-! ## Keys -/

/-- The keys of a telephone. -/
def keys : List Char :=
  ['0', '1', '2', '3', '4', '5', '6', '7', '8', '9', '*', '#', 'a', 'b', 'c']

theorem character_mem_keys :
    ∀ nibble : UInt8, nibble < filler → character nibble ∈ keys :=
  octet_forall (by decide +kernel)

theorem lt_filler_of_ne
    {nibble : UInt8}
    (small : nibble < 16)
    (isDigit : nibble ≠ filler) :
    nibble < filler := by
  have apart : nibble.toNat ≠ 15 := fun same => isDigit (UInt8.toNat_inj.mp same)
  have bound : nibble.toNat < 16 := small
  show nibble.toNat < 15
  omega

theorem lt_of_mem_nibbles
    {octets : List UInt8}
    {nibble : UInt8}
    (member : nibble ∈ nibbles octets) :
    nibble < 16 := by
  obtain ⟨octet, -, half⟩ := List.mem_flatMap.mp member
  obtain rfl | rfl : nibble = lowNibble octet ∨ nibble = highNibble octet := by
    simpa using half
  · exact lowNibble_lt octet
  · exact highNibble_lt octet

/-- The digits in front of a filler are keys. -/
theorem mem_keys_of_mem_ofOctets
    {octets : List UInt8}
    {digit : Char}
    (member : digit ∈ ofOctets octets) :
    digit ∈ keys := by
  obtain ⟨nibble, among, rfl⟩ := List.mem_map.mp member
  have isDigit : nibble ≠ filler := by
    simpa using List.mem_takeWhile_imp among
  have small := lt_of_mem_nibbles ((List.takeWhile_sublist _).subset among)
  exact character_mem_keys nibble (lt_filler_of_ne small isDigit)

/-- Where a filler in place of the first digit is left out, all digits are keys. -/
theorem mem_keys_of_mem_textAfter
    {first : UInt8}
    {octets : List UInt8}
    {digit : Char}
    (member : digit ∈ (textAfter first octets).toList) :
    digit ∈ keys := by
  rw [textAfter, String.toList_ofList, List.mem_append] at member
  rcases member with leading | following
  · split at leading
    case isTrue =>
      cases leading
    case isFalse isDigit =>
      rw [List.mem_singleton.mp leading]
      exact character_mem_keys _ (lt_filler_of_ne (highNibble_lt first) isDigit)
  · exact mem_keys_of_mem_ofOctets following

/-- A first digit that is always shown makes a difference where it is a filler. -/
theorem textWith_eq
    (first : UInt8)
    (octets : List UInt8) :
    textWith first octets =
      if highNibble first = filler then "?" ++ textAfter first octets
      else textAfter first octets := by
  split
  case isTrue isFiller =>
    rw [textWith, textAfter, if_pos isFiller, isFiller, List.nil_append, ← List.singleton_append,
      String.ofList_append]
    rfl
  case isFalse isDigit =>
    rw [textWith, textAfter, if_neg isDigit]
    rfl

/-! ## Packing keys -/

/-- The nibble of a key. -/
def nibble (key : Char) : UInt8 :=
  UInt8.ofNat (keys.idxOf key)

/--
Keys in octets: the first one above other things in the low half of an octet, and the
others two to an octet.
-/
def packKeys (low : UInt8) (first : Char) (others : List Char) : List UInt8 :=
  joinNibbles (nibble first) low :: pack (others.map nibble)

theorem nibble_of_mem_keys :
    ∀ key ∈ keys, nibble key < filler ∧ character (nibble key) = key := by
  -- the keys are gone through one by one, since there are too many characters to decide it of all
  have held :
      keys.all fun key => decide (nibble key < filler ∧ character (nibble key) = key) := by
    decide
  simpa only [decide_eq_true_eq] using List.all_eq_true.mp held

/-- Keys that were packed two to an octet are read back. -/
theorem ofOctets_packKeys
    {dialled : List Char}
    (areKeys : ∀ key ∈ dialled, key ∈ keys) :
    ofOctets (pack (dialled.map nibble)) = dialled := by
  have tells (key : Char) (member : key ∈ dialled) :=
    nibble_of_mem_keys key (areKeys key member)
  have small : ∀ digit ∈ dialled.map nibble, digit < filler := by
    rw [List.forall_mem_map]
    exact fun key member => (tells key member).1
  calc ofOctets (pack (dialled.map nibble))
    _ = dialled.map (character ∘ nibble) := by rw [ofOctets_pack small, List.map_map]
    _ = dialled.map id := List.map_congr_left fun key member => (tells key member).2
    _ = dialled := List.map_id _

theorem text_packKeys
    {dialled : List Char}
    (areKeys : ∀ key ∈ dialled, key ∈ keys) :
    text (pack (dialled.map nibble)) = String.ofList dialled := by
  rw [text, ofOctets_packKeys areKeys]

section Packed

variable {low : UInt8} {first : Char} {others : List Char}

/-- Keys that were packed are shown, the first one like the others. -/
theorem textWith_packKeys
    (lowSmall : low < 16)
    (areKeys : ∀ key ∈ first :: others, key ∈ keys) :
    textWith (joinNibbles (nibble first) low) (pack (others.map nibble)) =
      String.ofList (first :: others) := by
  rw [List.forall_mem_cons] at areKeys
  obtain ⟨small, character_eq⟩ := nibble_of_mem_keys first areKeys.1
  rw [textWith, highNibble_joinNibbles (lt_of_lt_filler small).1 lowSmall, character_eq,
    ofOctets_packKeys areKeys.2]

/-- Keys that were packed are shown where a filler in place of the first one is left out. -/
theorem textAfter_packKeys
    (lowSmall : low < 16)
    (areKeys : ∀ key ∈ first :: others, key ∈ keys) :
    textAfter (joinNibbles (nibble first) low) (pack (others.map nibble)) =
      String.ofList (first :: others) := by
  have small := (nibble_of_mem_keys first (areKeys first List.mem_cons_self)).1
  have notFiller : highNibble (joinNibbles (nibble first) low) ≠ filler := by
    rw [highNibble_joinNibbles (lt_of_lt_filler small).1 lowSmall]
    exact bne_iff_ne.mp (lt_of_lt_filler small).2
  rw [← textWith_packKeys lowSmall areKeys, textWith_eq, if_neg notFiller]

end Packed

end LteNas.DialledDigits
