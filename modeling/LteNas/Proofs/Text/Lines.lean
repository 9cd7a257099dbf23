import LteNas.Octets.Hex
import LteNas.Proofs.Octets.Nibbles
import LteNas.Proofs.Text.Numerals
import LteNas.Text.Blank
import Mathlib.Data.List.Basic

namespace LteNas.Text

/-!
# Texts of several lines

Lines are read back from the text that they are joined to, if none of them has a
line feed in it.  Whether a literal has one is decided on its characters.
-/

/-- The pieces of a text between its line feeds. -/
def cut (text : String) : List String :=
  (text.toList.splitOn '\n').map String.ofList

/-- The text is of one line. -/
def IsUnbroken (text : String) : Prop :=
  '\n' ∉ text.toList

/-- Lines are read back from the text that they are joined to. -/
theorem cut_intercalate
    {lines : List String}
    (unbroken : ∀ line ∈ lines, IsUnbroken line)
    (some_line : lines ≠ []) :
    cut ("\n".intercalate lines) = lines := by
  have separator_eq : "\n".toList = ['\n'] := by
    rfl
  rw [cut, String.toList_intercalate, separator_eq, List.splitOn_intercalate]
  · simp [Function.comp_def]
  · simpa [IsUnbroken] using unbroken
  · simpa using some_line

section Parts

variable {first second : String}

@[simp] theorem isUnbroken_append :
    IsUnbroken (first ++ second) ↔ IsUnbroken first ∧ IsUnbroken second := by
  simp [IsUnbroken]

@[simp] theorem isUnbroken_toString :
    IsUnbroken (toString first) ↔ IsUnbroken first :=
  Iff.rfl

@[simp] theorem isUnbroken_ofList
    {characters : List Char} :
    IsUnbroken (String.ofList characters) ↔ '\n' ∉ characters := by
  simp [IsUnbroken]

/-- A literal is of one line when none of its characters ends one. -/
theorem IsUnbroken.of_characters
    {characters : List Char}
    (unbroken : characters.all (· != '\n') = true) :
    IsUnbroken (String.ofList characters) := by
  rw [isUnbroken_ofList]
  intro member
  simpa using List.all_eq_true.mp unbroken _ member

end Parts

/-! ## Numbers -/

theorem digitChar_ne_lineFeed :
    ∀ digit < 16, Nat.digitChar digit ≠ '\n' := by
  decide

theorem toDigits_unbroken
    {base : Nat}
    (proper : 1 < base)
    (small : base ≤ 16)
    (number : Nat) :
    '\n' ∉ Nat.toDigits base number := by
  intro member
  obtain ⟨digit, inside, lineFeed⟩ := exists_of_mem_toDigits proper member
  exact digitChar_ne_lineFeed digit (Nat.lt_of_lt_of_le inside small) lineFeed.symm

@[simp] theorem isUnbroken_repr
    (number : Nat) :
    IsUnbroken number.repr := by
  rw [IsUnbroken, Nat.toList_repr]
  exact toDigits_unbroken (by decide) (by decide) number

@[simp] theorem isUnbroken_padZeros
    {digits : List Char}
    (width : Nat) :
    IsUnbroken (padZeros width digits) ↔ '\n' ∉ digits := by
  simp [padZeros]

@[simp] theorem isUnbroken_decimal
    (width number : Nat) :
    IsUnbroken (decimal width number) := by
  rw [decimal, isUnbroken_padZeros]
  exact toDigits_unbroken (by decide) (by decide) number

@[simp] theorem isUnbroken_hexadecimal
    (width number : Nat) :
    IsUnbroken (hexadecimal width number) := by
  rw [hexadecimal, isUnbroken_padZeros]
  exact toDigits_unbroken (by decide) (by decide) number

theorem hexDigit_ne_lineFeed
    (nibble : UInt8) :
    Hex.digit nibble ≠ '\n' := by
  revert nibble
  exact octet_forall (by decide +kernel)

@[simp] theorem isUnbroken_hex
    (octets : List UInt8) :
    IsUnbroken (Hex.encode octets) := by
  simp [Hex.encode, Hex.digits, (hexDigit_ne_lineFeed _).symm]

end LteNas.Text
