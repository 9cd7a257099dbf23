import LteNas.Octets.Hex
import LteNas.Proofs.Octets.Nibbles

namespace LteNas.Hex

/-!
# Hexadecimal digits

Text spells octets if it is their digits, in either letter case.  Such text, and
no other, is read as these octets: a character outside ASCII takes several
octets, none of which is a digit.
-/

/-- The text is the digits of the octets, in either letter case. -/
def Spells (text : List Char) (octets : List UInt8) : Prop :=
  text.map Char.toLower = (encode octets).toList

/-- The halves of octets, high one first. -/
def halves (octets : List UInt8) : List UInt8 :=
  octets.flatMap fun octet => [highNibble octet, lowNibble octet]

theorem halves_cons
    (octet : UInt8)
    (octets : List UInt8) :
    halves (octet :: octets) = highNibble octet :: lowNibble octet :: halves octets :=
  rfl

@[simp] theorem halves_length
    (octets : List UInt8) :
    (halves octets).length = 2 * octets.length := by
  induction octets with
  | nil =>
      rfl
  | cons octet octets inductionHypothesis =>
      rw [halves_cons, List.length_cons, List.length_cons, inductionHypothesis, List.length_cons]
      rfl

theorem encode_toList
    (octets : List UInt8) :
    (encode octets).toList = (halves octets).map digit := by
  rw [encode, String.toList_ofList, halves, List.map_flatMap]
  rfl

theorem lt_of_mem_halves
    {octets : List UInt8}
    {half : UInt8}
    (member : half ∈ halves octets) :
    half < 16 := by
  obtain ⟨octet, -, member⟩ := List.mem_flatMap.mp member
  rcases List.mem_cons.mp member with rfl | member
  · exact highNibble_lt octet
  · rw [List.mem_singleton.mp member]
    exact lowNibble_lt octet

/-! ## Single digits -/

theorem nibble?_lt :
    ∀ octet : UInt8, ∀ half ∈ nibble? octet, half < 16 :=
  octet_forall (by decide +kernel)

/-- Beyond ASCII nothing is a digit. -/
theorem nibble?_eq_none_of_le :
    ∀ octet : UInt8, 0x80 ≤ octet → nibble? octet = none :=
  octet_forall (by decide +kernel)

/-- An ASCII octet is the digit of a number exactly if it is that digit in lower case. -/
theorem nibble?_ascii :
    ∀ code : Fin 128, ∀ half : Fin 16,
      nibble? (UInt8.ofNat code) = some (UInt8.ofNat half) ↔
        (Char.ofNat code).toLower = digit (UInt8.ofNat half) := by
  decide +kernel

theorem digit_ascii :
    ∀ half : Fin 16, (digit (UInt8.ofNat half)).toNat < 128 := by
  decide

section Characters

variable {character : Char}

theorem utf8EncodeChar_of_ascii
    (ascii : character.toNat < 128) :
    String.utf8EncodeChar character = [UInt8.ofNat character.toNat] := by
  rw [String.utf8EncodeChar]
  exact if_pos (Nat.lt_succ_iff.mp ascii)

/-- Beyond ASCII the first octet of a character is none of ASCII. -/
theorem utf8EncodeChar_of_beyond
    (beyond : 128 ≤ character.toNat) :
    ∃ first others, String.utf8EncodeChar character = first :: others ∧ 0x80 ≤ first := by
  have code_lt : character.val.toNat < 0x110000 := by
    rcases character.valid with below | ⟨-, below⟩
    · exact Nat.lt_trans below (by decide)
    · exact below
  have code_ge : 128 ≤ character.val.toNat := beyond
  have first_ge {number : Nat} (least : 0x80 ≤ number) (most : number < 256) :
      0x80 ≤ UInt8.ofNat number := by
    rw [UInt8.le_iff_toNat_le, UInt8.toNat_ofNat', Nat.mod_eq_of_lt most]
    exact least
  rw [String.utf8EncodeChar]
  generalize character.val.toNat = code at code_lt code_ge
  split
  · omega
  split
  · exact ⟨_, _, rfl, first_ge (by omega) (by omega)⟩
  split
  · exact ⟨_, _, rfl, first_ge (by omega) (by omega)⟩
  · exact ⟨_, _, rfl, first_ge (by omega) (by omega)⟩

/-- Beyond ASCII a character has no lower case. -/
theorem toLower_of_beyond
    (beyond : 128 ≤ character.toNat) :
    character.toLower = character := by
  apply dif_neg
  rintro ⟨-, most⟩
  have code_le : character.toNat ≤ 90 := most
  omega

/-- A character starts with the octet of a digit exactly if it is this digit, in either case. -/
theorem map_nibble?_character
    {half : UInt8}
    {text : List UInt8}
    {others : List (Option UInt8)}
    (small : half < 16) :
    (String.utf8EncodeChar character ++ text).map nibble? = some half :: others ↔
      character.toLower = digit half ∧ text.map nibble? = others := by
  have half_eq : UInt8.ofNat half.toNat = half :=
    UInt8.ofNat_toNat
  by_cases ascii : character.toNat < 128
  · have code_iff := nibble?_ascii ⟨character.toNat, ascii⟩ ⟨half.toNat, small⟩
    simp only [half_eq, Char.ofNat_toNat] at code_iff
    rw [utf8EncodeChar_of_ascii ascii, List.singleton_append, List.map_cons, List.cons.injEq,
      code_iff]
  · have beyond := Nat.le_of_not_lt ascii
    obtain ⟨first, behind, octets_eq, first_ge⟩ := utf8EncodeChar_of_beyond beyond
    rw [octets_eq, List.cons_append, List.map_cons, nibble?_eq_none_of_le first first_ge]
    refine iff_of_false (by simp) ?_
    rintro ⟨lower_eq, -⟩
    have digit_lt := digit_ascii ⟨half.toNat, small⟩
    rw [half_eq, ← lower_eq, toLower_of_beyond beyond] at digit_lt
    exact ascii digit_lt

end Characters

/-- Halves are read off text exactly if it is their digits. -/
theorem map_nibble?_utf8Octets
    {text : List Char}
    {halves : List UInt8}
    (small : ∀ half ∈ halves, half < 16) :
    (utf8Octets text).map nibble? = halves.map some ↔
      text.map Char.toLower = halves.map digit := by
  induction text generalizing halves with
  | nil =>
      cases halves <;> simp [utf8Octets]
  | cons character text inductionHypothesis =>
      cases halves with
      | nil =>
          have octets_ne : String.utf8EncodeChar character ≠ [] := by
            simp
          simp [utf8Octets, octets_ne]
      | cons half halves =>
          obtain ⟨halfSmall, halvesSmall⟩ := List.forall_mem_cons.mp small
          rw [utf8Octets, List.flatMap_cons, List.map_cons, map_nibble?_character halfSmall,
            List.map_cons, List.map_cons, List.cons.injEq]
          exact and_congr_right fun _ => inductionHypothesis halvesSmall

/-- The characters of digits in both cases. -/
def alphabet : List Char :=
  [ '0', '1', '2', '3', '4', '5', '6', '7', '8', '9', 'a', 'b', 'c', 'd', 'e', 'f',
    'A', 'B', 'C', 'D', 'E', 'F' ]

theorem mem_alphabet_of_ascii :
    ∀ code : Fin 128, ∀ half : Fin 16,
      (Char.ofNat code).toLower = digit (UInt8.ofNat half) → Char.ofNat code ∈ alphabet := by
  decide +kernel

/-- Text that spells octets has nothing but digits in it. -/
theorem Spells.mem_alphabet
    {text : List Char}
    {octets : List UInt8}
    {character : Char}
    (spells : Spells text octets)
    (member : character ∈ text) :
    character ∈ alphabet := by
  have lower_mem : character.toLower ∈ (halves octets).map digit := by
    rw [← encode_toList, ← spells]
    exact List.mem_map_of_mem member
  obtain ⟨half, halfMember, lower_eq⟩ := List.mem_map.mp lower_mem
  have small : half.toNat < 16 := lt_of_mem_halves halfMember
  have digit_lt := digit_ascii ⟨half.toNat, small⟩
  rw [UInt8.ofNat_toNat] at digit_lt
  by_cases ascii : character.toNat < 128
  · have found := mem_alphabet_of_ascii ⟨character.toNat, ascii⟩ ⟨half.toNat, small⟩
    simp only [Char.ofNat_toNat, UInt8.ofNat_toNat] at found
    exact found lower_eq.symm
  · rw [lower_eq, toLower_of_beyond (Nat.le_of_not_lt ascii)] at digit_lt
    exact absurd digit_lt ascii

theorem Spells.eq_nil
    {octets : List UInt8}
    (spells : Spells [] octets) :
    octets = [] := by
  cases octets with
  | nil =>
      rfl
  | cons octet octets =>
      rw [Spells, encode_toList, halves_cons] at spells
      cases spells

/-- Octets are spelled by the digits that they are written in. -/
theorem spells_encode
    (octets : List UInt8) :
    Spells (encode octets).toList octets := by
  have lower_eq : ∀ half : Fin 16,
      (digit (UInt8.ofNat half)).toLower = digit (UInt8.ofNat half) := by
    decide
  rw [Spells, encode_toList, List.map_map]
  refine List.map_congr_left fun half member => ?_
  have half_eq := lower_eq ⟨half.toNat, lt_of_mem_halves member⟩
  rwa [UInt8.ofNat_toNat] at half_eq

/-! ## Octets -/

/-- Two digits are read as an octet exactly if they are its halves. -/
theorem joinNibbles_eq_iff
    {high low octet : UInt8}
    (highSmall : high < 16)
    (lowSmall : low < 16) :
    joinNibbles high low = octet ↔ high = highNibble octet ∧ low = lowNibble octet := by
  constructor
  · rintro rfl
    exact ⟨(highNibble_joinNibbles highSmall lowSmall).symm,
      (lowNibble_joinNibbles highSmall lowSmall).symm⟩
  · rintro ⟨rfl, rfl⟩
    exact joinNibbles_halves octet

/-- Pairs are read if their digits are, the first pair in front. -/
theorem decodePairs_cons_eq_ok_iff
    {high low : UInt8}
    {text octets : List UInt8}
    {position : Nat} :
    decodePairs (high :: low :: text) position = .ok octets ↔
      ∃ upper lower behind,
        nibble? high = some upper ∧ nibble? low = some lower ∧
          decodePairs text (position + 2) = .ok behind ∧
          octets = joinNibbles upper lower :: behind := by
  rw [decodePairs, nibbleAt, nibbleAt]
  cases nibble? high with
  | none =>
      simp [bind, Except.bind]
  | some upper =>
      cases nibble? low with
      | none =>
          simp [bind, Except.bind]
      | some lower =>
          cases decodePairs text (position + 2) <;>
            simp [bind, Except.bind, pure, Except.pure, joinNibbles, eq_comm]

/-- An even number of digits is read pair by pair. -/
theorem decodePairs_eq_ok_iff
    {text octets : List UInt8}
    {position : Nat}
    (even : text.length % 2 = 0) :
    decodePairs text position = .ok octets ↔
      text.map nibble? = (halves octets).map some := by
  induction text, position using decodePairs.induct generalizing octets with
  | case1 high low text position inductionHypothesis =>
      have evenBehind : text.length % 2 = 0 := by
        simpa [Nat.add_assoc] using even
      have behind_iff (octets : List UInt8) :=
        @inductionHypothesis octets evenBehind
      rw [decodePairs_cons_eq_ok_iff]
      constructor
      · rintro ⟨upper, lower, behind, upper_eq, lower_eq, read, rfl⟩
        have upperSmall := nibble?_lt high upper upper_eq
        have lowerSmall := nibble?_lt low lower lower_eq
        obtain ⟨high_eq, low_eq⟩ := (joinNibbles_eq_iff upperSmall lowerSmall).mp rfl
        rw [List.map_cons, List.map_cons, upper_eq, lower_eq, (behind_iff _).mp read, halves_cons,
          ← high_eq, ← low_eq]
        rfl
      · intro digits
        cases octets with
        | nil =>
            cases digits
        | cons octet octets =>
            rw [halves_cons] at digits
            obtain ⟨upper_eq, digits⟩ := List.cons.inj digits
            obtain ⟨lower_eq, digits⟩ := List.cons.inj digits
            refine ⟨_, _, octets, upper_eq, lower_eq, (behind_iff _).mpr digits, ?_⟩
            rw [joinNibbles_halves]
  | case2 text position short =>
      cases text with
      | nil =>
          cases octets <;> simp [halves, decodePairs, pure, Except.pure]
      | cons only text =>
          cases text with
          | nil =>
              cases even
          | cons low text =>
              exact (short only low text rfl).elim

/-- Text is read as octets exactly if it spells them. -/
theorem decode_eq_ok_iff
    {text : List Char}
    {octets : List UInt8} :
    decode (utf8Octets text) = .ok octets ↔ Spells text octets := by
  have spells_iff : Spells text octets ↔
      (utf8Octets text).map nibble? = (halves octets).map some := by
    rw [Spells, encode_toList, map_nibble?_utf8Octets fun _ => lt_of_mem_halves]
  rw [spells_iff, decode]
  split
  · rename_i even
    exact decodePairs_eq_ok_iff even
  · rename_i odd
    refine iff_of_false (fun found => nomatch found) fun read => odd ?_
    have length_eq := congrArg List.length read
    rw [List.length_map, List.length_map, halves_length] at length_eq
    rw [length_eq, Nat.mul_mod_right]

end LteNas.Hex
