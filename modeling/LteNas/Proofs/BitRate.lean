import LteNas.BitRate
import Mathlib.Algebra.Group.Nat.Defs
import Mathlib.Order.Lattice.Nat
import Mathlib.Order.Monotone.Defs

namespace LteNas

/-!
# Rates in steps

A rate is a number of steps, and a step is a number of units.  The two products are
taken one after the other, and stop at the ceiling as if they were one.  The steps that
have a code are so far below the ceiling that sixteen bits cannot count up to it.
-/

theorem RateUnit.kilobits_pos
    (unit : RateUnit) :
    0 < unit.kilobits := by
  cases unit <;> decide

namespace BitRate

/-- Two products, each of which stops at the ceiling, are one that stops there. -/
theorem saturatingProduct_saturatingProduct
    (first second : Nat)
    {third : Nat}
    (positive : 0 < third) :
    saturatingProduct (saturatingProduct first second) third =
      min (first * second * third) ceiling := by
  have beyond : ceiling ≤ ceiling * third :=
    Nat.le_mul_of_pos_right ceiling positive
  calc
    min (min (first * second) ceiling * third) ceiling
    _ = min (min (first * second * third) (ceiling * third)) ceiling := by
      rw [Nat.mul_min_mul_right]
    _ = min (first * second * third) (min (ceiling * third) ceiling) :=
      Nat.min_assoc _ _ _
    _ = min (first * second * third) ceiling := by
      rw [Nat.min_eq_right beyond]

/-- A rate in kilobits is the product of all three factors, up to the ceiling. -/
theorem scaled_kilobits
    (value : Nat)
    (step : RateStep) :
    (scaled value step).kilobits =
      min (value * step.multiplier * step.unit.kilobits) ceiling :=
  saturatingProduct_saturatingProduct value step.multiplier step.unit.kilobits_pos

/-- More steps are no lower rate. -/
theorem scaled_kilobits_monotone
    (step : RateStep) :
    Monotone fun value => (scaled value step).kilobits := by
  intro value other value_le
  have products :
      value * step.multiplier * step.unit.kilobits ≤
        other * step.multiplier * step.unit.kilobits :=
    Nat.mul_le_mul_right _ (Nat.mul_le_mul_right _ value_le)
  simp only [scaled_kilobits]
  omega

end BitRate

namespace RateStep

/-- The kilobits of one step. -/
def kilobits (step : RateStep) : Nat :=
  step.multiplier * step.unit.kilobits

/-- So many steps, however many they are. -/
def rate (step : RateStep) (count : Nat) : BitRate :=
  ⟨count * step.multiplier, step.unit⟩

/-- So many steps are counted without either product getting to the ceiling. -/
structure CountsExactly (step : RateStep) (count : Nat) : Prop where
  scaled_eq : BitRate.scaled count step = step.rate count
  kilobits_eq : (step.rate count).kilobits = count * step.multiplier * step.unit.kilobits
  below : count * step.multiplier * step.unit.kilobits < BitRate.ceiling

theorem countsExactly_of_lt
    {step : RateStep}
    {count : Nat}
    (below : count * step.kilobits < BitRate.ceiling) :
    step.CountsExactly count := by
  rw [kilobits, ← Nat.mul_assoc] at below
  have value_le : count * step.multiplier ≤ BitRate.ceiling :=
    (Nat.le_mul_of_pos_right _ step.unit.kilobits_pos).trans below.le
  refine ⟨?_, Nat.min_eq_left below.le, below⟩
  rw [BitRate.scaled, BitRate.saturatingProduct, Nat.min_eq_left value_le, rate]

/-! ## The ladder of steps -/

/--
The kilobits of a step on the ladder.  Five steps belong to a unit: the first of them is
the unit, and each further one is four times the one before.
-/
def ladder (place : Nat) : Nat :=
  4 ^ (place % 5) * 1000 ^ (place / 5 + 1)

/-- The place of a code.  The codes below two share the first one, those from 21 on the last. -/
def place (code : UInt8) : Nat :=
  min code.toNat 0x15 - 2

theorem ladder_place
    (unit quarter : Nat)
    {code : UInt8}
    (small : quarter < 5)
    (place_eq : min code.toNat 0x15 - 2 = 5 * unit + quarter) :
    ladder (place code) = 4 ^ quarter * 1000 ^ (unit + 1) := by
  have positive : 0 < 5 := by
    decide
  rw [place, place_eq, ladder, Nat.mul_add_mod, Nat.mod_eq_of_lt small,
    Nat.mul_add_div positive, Nat.div_eq_of_lt small, Nat.add_zero]

theorem ofHighCode_kilobits
    {code : UInt8}
    (high : 0x07 ≤ code.toNat) :
    (ofHighCode code).kilobits = ladder (place code) := by
  simp only [ofHighCode, Nat.pow_eq]
  -- a case for each unit, and one for the codes beyond the last place
  split_ifs with gigabits terabits petabits
  · rw [ladder_place 1 (code.toNat - 0x07) (by omega) (by omega)]
    rfl
  · rw [ladder_place 2 (code.toNat - 0x0C) (by omega) (by omega)]
    rfl
  · rw [ladder_place 3 (code.toNat - 0x11) (by omega) (by omega)]
    rfl
  · rw [ladder_place 3 4 (by omega) (by omega)]
    rfl

/-- Every code of an aggregate rate has its place on the ladder. -/
theorem ofAggregateCode_kilobits
    (code : UInt8) :
    (ofAggregateCode code).kilobits = ladder (place code) := by
  simp only [ofAggregateCode, Nat.pow_eq]
  split_ifs with first megabits
  · rw [ladder_place 0 0 (by omega) (by omega)]
    rfl
  · rw [ladder_place 0 (code.toNat - 0x02) (by omega) (by omega)]
    rfl
  · exact ofHighCode_kilobits (by omega)

/-- The codes of a quality rate are those of an aggregate rate, apart from the lowest two. -/
theorem ofQualityCode_eq
    {code : UInt8}
    (common : 0x02 ≤ code.toNat) :
    ofQualityCode code = ofAggregateCode code := by
  have notZero : code.toNat ≠ 0x00 := by
    omega
  have notOne : code.toNat ≠ 0x01 := by
    omega
  simp only [ofQualityCode, ofAggregateCode, if_neg notZero, if_neg notOne]
  by_cases first : code.toNat = 0x02
  · rw [first]
    rfl
  · have notFirst : ¬ code.toNat ≤ 0x02 := by
      omega
    rw [if_neg notFirst]

/-- The last step of the ladder. -/
def greatest : RateStep :=
  ⟨256, .pbps⟩

theorem ladder_place_le
    (code : UInt8) :
    ladder (place code) ≤ greatest.kilobits := by
  have place_le : place code ≤ 19 := by
    rw [place]
    omega
  have quarters : 4 ^ (place code % 5) ≤ 4 ^ 4 :=
    Nat.pow_le_pow_right (by decide) (by omega)
  have units : 1000 ^ (place code / 5 + 1) ≤ 1000 ^ 4 :=
    Nat.pow_le_pow_right (by decide) (by omega)
  exact Nat.mul_le_mul quarters units

theorem ofAggregateCode_le
    (code : UInt8) :
    (ofAggregateCode code).kilobits ≤ greatest.kilobits :=
  (ofAggregateCode_kilobits code).trans_le (ladder_place_le code)

theorem ofQualityCode_le
    (code : UInt8) :
    (ofQualityCode code).kilobits ≤ greatest.kilobits := by
  by_cases common : 0x02 ≤ code.toNat
  · rw [ofQualityCode_eq common]
    exact ofAggregateCode_le code
  · by_cases unused : code.toNat = 0x00
    · simp only [ofQualityCode, if_pos unused]
      decide
    · have first : code.toNat = 0x01 := by
        omega
      simp only [ofQualityCode, if_neg unused, if_pos first]
      decide

/-- Sixteen bits do not count up to the ceiling; of the greatest steps they reach nine tenths. -/
theorem countsExactly_of_le
    {step : RateStep}
    (step_le : step.kilobits ≤ greatest.kilobits)
    (count : UInt16) :
    step.CountsExactly count.toNat := by
  apply countsExactly_of_lt
  have count_le : count.toNat ≤ 0xFFFF :=
    Nat.le_of_lt_succ count.toNat_lt
  calc
    count.toNat * step.kilobits
    _ ≤ 0xFFFF * greatest.kilobits := Nat.mul_le_mul count_le step_le
    _ < BitRate.ceiling := by decide

-- with one more bit the ceiling is reached
example :
    (BitRate.scaled 0xFFFF (ofAggregateCode 0xFF)).kilobits = 16776960000000000000 ∧
      (BitRate.scaled 0x1FFFF (ofAggregateCode 0xFF)).kilobits = BitRate.ceiling := by
  decide

end RateStep

end LteNas
