import LteNas.Proofs.Text.Numerals
import LteNas.Yaml.Typed

namespace LteNas.Yaml

/-!
# Numbers read back

The digits of a number spell it, whatever zeros are put in front of them, and a
plain scalar of decimal digits is the number.
-/

theorem digitValue?_digitChar :
    ∀ digit : Fin 16, digitValue? (Nat.digitChar digit) = some digit.val := by
  decide

/-- A digit is added behind those that were read. -/
def addDigit? (base number : Nat) (digit : Char) : Option Nat := do
  let value ← digitValue? digit
  if value < base then some (number * base + value) else none

theorem digitsValue?_eq
    {base : Nat}
    {digits : List Char}
    (nonempty : digits ≠ []) :
    digitsValue? base digits = digits.foldlM (addDigit? base) 0 := by
  rw [digitsValue?, if_neg (by simpa using nonempty)]
  rfl

theorem addDigit?_digitChar
    {base digit : Nat}
    (small : base ≤ 16)
    (inside : digit < base)
    (number : Nat) :
    addDigit? base number (Nat.digitChar digit) = some (number * base + digit) := by
  have value_eq := digitValue?_digitChar ⟨digit, Nat.lt_of_lt_of_le inside small⟩
  simp only at value_eq
  simp [addDigit?, value_eq, inside]

/-- The digits of a number are read as it. -/
theorem foldlM_toDigits
    {base : Nat}
    (proper : 1 < base)
    (small : base ≤ 16)
    (number : Nat) :
    (Nat.toDigits base number).foldlM (addDigit? base) 0 = some number := by
  induction number using Nat.strong_induction_on with
  | h number inductionHypothesis =>
      rw [Nat.toDigits_eq_if proper]
      split
      · rename_i inside
        simp [addDigit?_digitChar small inside]
      · rename_i large
        have smaller : number / base < number :=
          Nat.div_lt_self (by omega) proper
        have inside : number % base < base :=
          Nat.mod_lt _ (by omega)
        rw [List.foldlM_append, inductionHypothesis _ smaller]
        simp [addDigit?_digitChar small inside, Nat.div_add_mod']

theorem foldlM_zeros
    {base : Nat}
    (proper : 1 < base)
    (count : Nat) :
    (List.replicate count '0').foldlM (addDigit? base) 0 = some 0 := by
  have positive : 0 < base := by
    omega
  have zero_eq : addDigit? base 0 '0' = some 0 := by
    have value_eq : digitValue? '0' = some 0 := by
      decide
    simp [addDigit?, value_eq, positive]
  induction count with
  | zero =>
      rfl
  | succ count inductionHypothesis =>
      rw [List.replicate_succ, List.foldlM_cons, zero_eq]
      exact inductionHypothesis

/-- Behind zeros the digits of a number spell it. -/
theorem digitsValue?_padded
    {base : Nat}
    (proper : 1 < base)
    (small : base ≤ 16)
    (zeros number : Nat) :
    digitsValue? base (List.replicate zeros '0' ++ Nat.toDigits base number) = some number := by
  rw [digitsValue?_eq (by simp), List.foldlM_append, foldlM_zeros proper]
  exact foldlM_toDigits proper small number

theorem digitsValue?_toDigits
    {base : Nat}
    (proper : 1 < base)
    (small : base ≤ 16)
    (number : Nat) :
    digitsValue? base (Nat.toDigits base number) = some number :=
  digitsValue?_padded proper small 0 number

theorem digitsValue?_hexadecimal
    (width number : Nat) :
    digitsValue? 16 (Text.hexadecimal width number).toList = some number := by
  rw [Text.hexadecimal_toList]
  exact digitsValue?_padded (by decide) (by decide) _ number

/-! ## Natural numbers in plain scalars -/

section Digits

variable {digits : List Char}

theorem hasNeedlessZero_eq_false
    (noZero : digits.head? ≠ some '0') :
    hasNeedlessZero digits = false := by
  fun_cases hasNeedlessZero digits
  · exact absurd rfl noZero
  · rfl

/-- Decimal digits announce no base. -/
theorem markedBase?_eq_none
    (areDigits : ∀ digit ∈ digits, digit.isDigit = true) :
    markedBase? digits = none := by
  fun_cases markedBase? digits
  · exact absurd (areDigits 'x' (by simp)) (by decide)
  · exact absurd (areDigits 'o' (by simp)) (by decide)
  · exact absurd (areDigits 'b' (by simp)) (by decide)
  · rfl

/-- Decimal digits have no sign in front. -/
theorem integer?_of_digits
    (areDigits : ∀ digit ∈ digits, digit.isDigit = true) :
    integer? digits = (magnitude? digits).map Int.ofNat := by
  fun_cases integer? digits
  · exact absurd (areDigits '-' (by simp)) (by decide)
  · exact absurd (areDigits '+' (by simp)) (by decide)
  · rfl

end Digits

theorem toDigits_areDigits
    (number : Nat) :
    ∀ digit ∈ Nat.toDigits 10 number, digit.isDigit = true :=
  fun _ member => Nat.isDigit_of_mem_toDigits (by decide) (by decide) member

theorem magnitude?_toDigits
    (number : Nat) :
    magnitude? (Nat.toDigits 10 number) = some number := by
  have needless : hasNeedlessZero (Nat.toDigits 10 number) = false := by
    by_cases zero : number = 0
    · subst zero
      rfl
    · exact hasNeedlessZero_eq_false
        (Text.head?_toDigits (by decide) (by decide) (Nat.pos_of_ne_zero zero))
  rw [magnitude?, markedBase?_eq_none (toDigits_areDigits number)]
  simp [needless, digitsValue?_toDigits]

/-- A word of 64 bits is read from its decimal digits. -/
theorem natural?_repr
    {number : Nat}
    (fits : number < 2 ^ 64) :
    natural? number.repr = some number := by
  have areDigits := toDigits_areDigits number
  have unsigned : (Nat.toDigits 10 number).head? ≠ some '-' := by
    intro signed
    exact absurd (areDigits '-' (List.mem_of_head? signed)) (by decide)
  rw [natural?, Nat.toList_repr, integer?_of_digits areDigits, magnitude?_toDigits]
  exact if_pos ⟨fits, unsigned⟩

end LteNas.Yaml
