import LteNas.ElementValue.Quality
import LteNas.Proofs.BitRate
import LteNas.Proofs.Element.Fronts

namespace LteNas

/-!
# Reading extended rates

The rates of an extended element are exactly as many steps as it says.  Any octets of
the right number are rates, and no others are.
-/

/-! ## Elements of two parts -/

/-- The octets of two parts are read as the value of both, all others refused for their number. -/
structure OctetDecoder.ReadsPairs
    {Part : Type}
    (decode : OctetDecoder)
    (encode : Part → List UInt8)
    (length : Nat)
    (value : Part → Part → Value) :
    Prop where
  reads : ∀ first second,
    OctetDecoder.Reads decode (encode first ++ encode second) (value first second)
  covers : ∀ octets : List UInt8, octets.length = length →
    ∃ first second, encode first ++ encode second = octets
  refuses : ∀ octets : List UInt8, octets.length ≠ length →
    OctetDecoder.Refuses decode octets (.lengthMismatch length octets.length)

/-- If half of the octets are always a part, all of them are two. -/
theorem exists_pair
    {Part : Type}
    {encode : Part → List UInt8}
    {half : Nat}
    (exists_part : ∀ octets : List UInt8, octets.length = half → ∃ part, encode part = octets)
    {octets : List UInt8}
    (length_eq : octets.length = half + half) :
    ∃ first second, encode first ++ encode second = octets := by
  obtain ⟨first, first_eq⟩ := exists_part (octets.take half) (by simp [length_eq])
  obtain ⟨second, second_eq⟩ := exists_part (octets.drop half) (by simp [length_eq])
  exact ⟨first, second, by rw [first_eq, second_eq, List.take_append_drop]⟩

/-- An aggregate rate: the code of its step, and how many of them. -/
structure AggregateRate where
  code : UInt8
  count : UInt16

namespace AggregateRate

def octets (rate : AggregateRate) : List UInt8 :=
  [rate.code] ++ bigEndianOctets 2 rate.count.toNat

def step (rate : AggregateRate) : RateStep :=
  .ofAggregateCode rate.code

theorem octets_length
    (rate : AggregateRate) :
    rate.octets.length = 3 := by
  simp [octets]

/-- Any three octets are an aggregate rate. -/
theorem exists_octets
    (octets : List UInt8)
    (length_eq : octets.length = 3) :
    ∃ rate : AggregateRate, rate.octets = octets := by
  obtain ⟨code, others, rfl⟩ := List.exists_cons_of_length_eq_add_one length_eq
  obtain ⟨count, count_eq⟩ := exists_word others (Nat.succ.inj length_eq)
  exact ⟨⟨code, count⟩, congrArg ([code] ++ ·) count_eq⟩

end AggregateRate

/-- The quality rates of both directions: the code of their step, and how many of them. -/
structure QualityRates where
  code : UInt8
  up : UInt16
  down : UInt16

namespace QualityRates

def octets (rates : QualityRates) : List UInt8 :=
  [rates.code] ++ (bigEndianOctets 2 rates.up.toNat ++ bigEndianOctets 2 rates.down.toNat)

def step (rates : QualityRates) : RateStep :=
  .ofQualityCode rates.code

theorem octets_length
    (rates : QualityRates) :
    rates.octets.length = 5 := by
  simp [octets]

/-- Any five octets are quality rates. -/
theorem exists_octets
    (octets : List UInt8)
    (length_eq : octets.length = 5) :
    ∃ rates : QualityRates, rates.octets = octets := by
  obtain ⟨code, others, rfl⟩ := List.exists_cons_of_length_eq_add_one length_eq
  obtain ⟨up, down, words⟩ :=
    exists_pair (fun word => exists_word word) (Nat.succ.inj length_eq)
  exact ⟨⟨code, up, down⟩, congrArg ([code] ++ ·) words⟩

end QualityRates

namespace ElementValue

open Reader

/-! ## Aggregate rates -/

/-- What is shown of aggregate rates, in which nothing stops at a ceiling. -/
def aggregateValue (down up : AggregateRate) : Value :=
  .fields
    [ rateField "APN-AMBR for downlink" (down.step.rate down.count.toNat),
      rateField "APN-AMBR for uplink" (up.step.rate up.count.toNat) ]

theorem aggregateStep_countsExactly
    (code : UInt8)
    (count : UInt16) :
    (RateStep.ofAggregateCode code).CountsExactly count.toNat :=
  RateStep.countsExactly_of_le (RateStep.ofAggregateCode_le code) count

theorem readAggregate_parses
    (rate : AggregateRate) :
    readAggregate.Parses rate.octets (rate.step.rate rate.count.toNat) := by
  rw [AggregateRate.step, ← (aggregateStep_countsExactly rate.code rate.count).scaled_eq]
  exact (octet_parses rate.code).bind ((number_parses rate.count.toNat_lt).returning _)

theorem extendedAggregateRate_reads
    (down up : AggregateRate) :
    OctetDecoder.Reads extendedAggregateRate (down.octets ++ up.octets)
      (aggregateValue down up) := by
  apply Exhausts.decoder_reads
  apply Exhausts.expectExactly (by simp [AggregateRate.octets_length])
  apply (readAggregate_parses down).bind_exhausts
  exact ((readAggregate_parses up).returning _).exhausts

theorem extendedAggregateRate_readsPairs :
    OctetDecoder.ReadsPairs extendedAggregateRate AggregateRate.octets 6 aggregateValue where
  reads := extendedAggregateRate_reads
  covers := fun _ => exists_pair AggregateRate.exists_octets
  refuses := fun _ differs => (expectExactly_fails differs).bind.decoder_refuses

/-! ## Quality rates -/

/-- What is shown of quality rates, in which nothing stops at a ceiling. -/
def extendedQualityValue (maximum guaranteed : QualityRates) : Value :=
  .fields
    [ rateField "Maximum bit rate for uplink" (maximum.step.rate maximum.up.toNat),
      rateField "Maximum bit rate for downlink" (maximum.step.rate maximum.down.toNat),
      rateField "Guaranteed bit rate for uplink" (guaranteed.step.rate guaranteed.up.toNat),
      rateField "Guaranteed bit rate for downlink" (guaranteed.step.rate guaranteed.down.toNat) ]

theorem qualityStep_countsExactly
    (code : UInt8)
    (count : UInt16) :
    (RateStep.ofQualityCode code).CountsExactly count.toNat :=
  RateStep.countsExactly_of_le (RateStep.ofQualityCode_le code) count

theorem extendedQuality_reads
    (maximum guaranteed : QualityRates) :
    OctetDecoder.Reads extendedQuality (maximum.octets ++ guaranteed.octets)
      (extendedQualityValue maximum guaranteed) := by
  have exact_eq (rates : QualityRates) (count : UInt16) :
      rates.step.rate count.toNat = .scaled count.toNat rates.step :=
    (qualityStep_countsExactly rates.code count).scaled_eq.symm
  rw [extendedQualityValue, exact_eq, exact_eq, exact_eq, exact_eq]
  apply Exhausts.decoder_reads
  apply Exhausts.expectExactly (by simp [QualityRates.octets_length])
  rw [QualityRates.octets, List.append_assoc, List.append_assoc]
  apply (octet_parses maximum.code).bind_exhausts
  apply (number_parses maximum.up.toNat_lt).bind_exhausts
  apply (number_parses maximum.down.toNat_lt).bind_exhausts
  apply (octet_parses guaranteed.code).bind_exhausts
  apply (number_parses guaranteed.up.toNat_lt).bind_exhausts
  exact ((number_parses guaranteed.down.toNat_lt).returning _).exhausts

theorem extendedQuality_readsPairs :
    OctetDecoder.ReadsPairs extendedQuality QualityRates.octets 10 extendedQualityValue where
  reads := extendedQuality_reads
  covers := fun _ => exists_pair QualityRates.exists_octets
  refuses := fun _ differs => (expectExactly_fails differs).bind.decoder_refuses

/--
In kilobits a number of steps is the product of all factors, or the ceiling if that is
less, and grows with the number.  Sixteen bits of steps that have a code stay below the
ceiling, so that extended rates are shown as exactly as many steps as were written.
-/
theorem extendedRates_areExact :
    (∀ (value : Nat) (step : RateStep),
        (BitRate.scaled value step).kilobits =
          min (value * step.multiplier * step.unit.kilobits) (2 ^ 64 - 1)) ∧
      (∀ step : RateStep, Monotone fun value => (BitRate.scaled value step).kilobits) ∧
      (∀ (code : UInt8) (count : UInt16),
        (RateStep.ofAggregateCode code).CountsExactly count.toNat ∧
          (RateStep.ofQualityCode code).CountsExactly count.toNat) ∧
      OctetDecoder.ReadsPairs extendedAggregateRate AggregateRate.octets 6 aggregateValue ∧
      OctetDecoder.ReadsPairs extendedQuality QualityRates.octets 10 extendedQualityValue := by
  refine ⟨BitRate.scaled_kilobits, BitRate.scaled_kilobits_monotone, fun code count => ?_,
    extendedAggregateRate_readsPairs, extendedQuality_readsPairs⟩
  exact ⟨aggregateStep_countsExactly code count, qualityStep_countsExactly code count⟩

end ElementValue

end LteNas
