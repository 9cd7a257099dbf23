import LteNas.Text.Digits
import Mathlib.Data.Nat.Digits.Defs

namespace LteNas.Text

/-!
# Numerals

The digits of numbers, and the zeros that hexadecimal text puts in front of them.
-/

/-- Every digit of a number is the digit of one below the base. -/
theorem exists_of_mem_toDigits
    {base number : Nat}
    {character : Char}
    (proper : 1 < base)
    (member : character ∈ Nat.toDigits base number) :
    ∃ digit < base, character = Nat.digitChar digit := by
  induction number using Nat.strong_induction_on with
  | h number inductionHypothesis =>
      rw [Nat.toDigits_eq_if proper] at member
      split at member
      · rename_i small
        exact ⟨number, small, List.mem_singleton.mp member⟩
      · rename_i large
        rcases List.mem_append.mp member with higher | last
        · have smaller : number / base < number :=
            Nat.div_lt_self (by omega) proper
          exact inductionHypothesis _ smaller higher
        · exact ⟨number % base, Nat.mod_lt _ (by omega), List.mem_singleton.mp last⟩

theorem digitChar_eq_zero :
    ∀ digit : Fin 16, Nat.digitChar digit = '0' → digit = 0 := by
  decide

/-- Only zero is written with a zero in front. -/
theorem head?_toDigits
    {base number : Nat}
    (proper : 1 < base)
    (small : base ≤ 16)
    (positive : 0 < number) :
    (Nat.toDigits base number).head? ≠ some '0' := by
  induction number using Nat.strong_induction_on with
  | h number inductionHypothesis =>
      rw [Nat.toDigits_eq_if proper]
      split
      · rename_i inside
        intro zero
        have digit_eq := digitChar_eq_zero ⟨number, Nat.lt_of_lt_of_le inside small⟩
          (Option.some.inj zero)
        exact absurd (Fin.val_eq_of_eq digit_eq) (Nat.ne_of_gt positive)
      · rename_i large
        have some_higher : 0 < number / base :=
          Nat.div_pos (Nat.le_of_not_lt large) (Nat.lt_of_succ_lt proper)
        have higher := inductionHypothesis _ (Nat.div_lt_self positive proper) some_higher
        rcases digits : Nat.toDigits base (number / base) with _ | ⟨first, others⟩
        · exact absurd digits Nat.toDigits_ne_nil
        · rw [digits] at higher
          exact higher

/-! ## Hexadecimal text -/

section Hexadecimal

variable {width number : Nat} {character : Char}

theorem hexadecimal_toList
    (width number : Nat) :
    (hexadecimal width number).toList =
      List.replicate (width - (Nat.toDigits 16 number).length) '0' ++ Nat.toDigits 16 number :=
  String.toList_ofList

/-- Every character of hexadecimal text is the digit of a number below sixteen. -/
theorem exists_of_mem_hexadecimal
    (member : character ∈ (hexadecimal width number).toList) :
    ∃ digit : Fin 16, character = Nat.digitChar digit := by
  rw [hexadecimal_toList] at member
  rcases List.mem_append.mp member with zero | digit
  · exact ⟨0, List.eq_of_mem_replicate zero⟩
  · obtain ⟨value, small, rfl⟩ := exists_of_mem_toDigits (by decide) digit
    exact ⟨⟨value, small⟩, rfl⟩

theorem le_hexadecimal_length
    (width number : Nat) :
    width ≤ (hexadecimal width number).toList.length := by
  rw [hexadecimal_toList, List.length_append, List.length_replicate]
  omega

/-- A number that the width has room for takes no more. -/
theorem hexadecimal_length
    (wide : 0 < width)
    (fits : number < 16 ^ width) :
    (hexadecimal width number).toList.length = width := by
  have few : (Nat.toDigits 16 number).length ≤ width :=
    (Nat.length_toDigits_le_iff (by decide) wide).mpr fits
  rw [hexadecimal_toList, List.length_append, List.length_replicate, Nat.sub_add_cancel few]

end Hexadecimal

end LteNas.Text
