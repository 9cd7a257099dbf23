import LteNas.Text.Utf16
import LteNas.Proofs.Octets.Window

namespace LteNas.Text

/-!
# Texts as UTF-16

A text that was written as big-endian UTF-16 is read back.  A character beyond the
basic plane is a pair of surrogates, and no other character is one.
-/

/-- The code units of a character: one, or a pair of surrogates beyond the basic plane. -/
def characterUnits (character : Char) : List Nat :=
  let code := character.toNat
  if code < 0x10000 then
    [code]
  else
    [0xD800 + (code - 0x10000) / 0x400, 0xDC00 + (code - 0x10000) % 0x400]

/-- The octets of a text in UTF-16, the most significant octet of each unit first. -/
def utf16Octets (text : String) : List UInt8 :=
  (text.toList.flatMap characterUnits).flatMap (bigEndianOctets 2)

/-- A character is no surrogate, and lies in one of seventeen planes. -/
theorem character_valid
    (character : Char) :
    character.toNat < 0xD800 ∨ 0xDFFF < character.toNat ∧ character.toNat < 0x110000 :=
  character.valid

theorem characterUnits_lt
    {character : Char}
    {codeUnit : Nat}
    (member : codeUnit ∈ characterUnits character) :
    codeUnit < 256 ^ 2 := by
  have valid := character_valid character
  rw [characterUnits] at member
  split at member
  case isTrue basic =>
    rw [List.mem_singleton.mp member]
    exact basic
  case isFalse beyond =>
    rcases List.mem_cons.mp member with rfl | last
    · omega
    · rw [List.mem_singleton.mp last]
      omega

/-- Code units are read back from their octets. -/
theorem codeUnits_octets
    {units : List Nat}
    (small : ∀ codeUnit ∈ units, codeUnit < 256 ^ 2) :
    codeUnits (units.flatMap (bigEndianOctets 2)) = units := by
  induction units with
  | nil =>
      rfl
  | cons codeUnit units inductionHypothesis =>
      rw [List.forall_mem_cons] at small
      have shape :
          bigEndianOctets 2 codeUnit =
            [UInt8.ofNat (codeUnit / 256 % 256), UInt8.ofNat (codeUnit % 256)] :=
        rfl
      have unit_eq :
          (UInt8.ofNat (codeUnit / 256 % 256)).toNat * 256 + (UInt8.ofNat (codeUnit % 256)).toNat =
            codeUnit := by
        rw [UInt8.toNat_ofNat', UInt8.toNat_ofNat']
        omega
      rw [List.flatMap_cons, shape, List.cons_append, List.singleton_append, codeUnits, unit_eq,
        inductionHypothesis small.2]

section Reading

variable {code high low : Nat} {units : List Nat}

theorem readUtf16From_basic
    (valid : code < 0xD800 ∨ 0xDFFF < code) :
    readUtf16From none (code :: units) = Char.ofNat code :: readUtf16From none units := by
  have notHigh : isHighSurrogate code = false := by
    rw [isHighSurrogate, Bool.and_eq_false_iff, decide_eq_false_iff_not, decide_eq_false_iff_not]
    omega
  have notLow : isLowSurrogate code = false := by
    rw [isLowSurrogate, Bool.and_eq_false_iff, decide_eq_false_iff_not, decide_eq_false_iff_not]
    omega
  simp [readUtf16From, notHigh, notLow]

theorem readUtf16From_pair
    (highSmall : high < 0x400)
    (lowSmall : low < 0x400) :
    readUtf16From none ((0xD800 + high) :: (0xDC00 + low) :: units) =
      Char.ofNat (0x10000 + high * 0x400 + low) :: readUtf16From none units := by
  have isHigh : isHighSurrogate (0xD800 + high) = true := by
    rw [isHighSurrogate, Bool.and_eq_true_iff, decide_eq_true_iff, decide_eq_true_iff]
    omega
  have isLow : isLowSurrogate (0xDC00 + low) = true := by
    rw [isLowSurrogate, Bool.and_eq_true_iff, decide_eq_true_iff, decide_eq_true_iff]
    omega
  simp [readUtf16From, isHigh, isLow, ofSurrogates]

end Reading

/-- A character is read back, and reading goes on behind it. -/
theorem readUtf16From_character
    (character : Char)
    (units : List Nat) :
    readUtf16From none (characterUnits character ++ units) =
      character :: readUtf16From none units := by
  have valid := character_valid character
  rw [characterUnits]
  split
  case isTrue basic =>
    rw [List.singleton_append, readUtf16From_basic (valid.imp_right And.left), Char.ofNat_toNat]
  case isFalse beyond =>
    have code_eq :
        0x10000 + (character.toNat - 0x10000) / 0x400 * 0x400 +
            (character.toNat - 0x10000) % 0x400 =
          character.toNat := by
      omega
    rw [List.cons_append, List.singleton_append,
      readUtf16From_pair (by omega) (Nat.mod_lt _ (by decide)), code_eq, Char.ofNat_toNat]

/-- A text is read back from its octets. -/
theorem readUtf16_utf16Octets
    (text : String) :
    readUtf16 (utf16Octets text) = text := by
  have small : ∀ codeUnit ∈ text.toList.flatMap characterUnits, codeUnit < 256 ^ 2 := by
    intro codeUnit member
    obtain ⟨character, -, among⟩ := List.mem_flatMap.mp member
    exact characterUnits_lt among
  have characters :
      ∀ characters : List Char,
        readUtf16From none (characters.flatMap characterUnits) = characters := by
    intro characters
    induction characters with
    | nil =>
        rfl
    | cons character characters inductionHypothesis =>
        rw [List.flatMap_cons, readUtf16From_character, inductionHypothesis]
  rw [readUtf16, utf16Octets, codeUnits_octets small, characters, String.ofList_toList]

end LteNas.Text
