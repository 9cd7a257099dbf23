import LteNas.Proofs.ElementValue.AreaBlock

namespace LteNas

/-!
# Lists of networks

Every three octets are read as a network identity.  They are written back as they
were exactly if their digits are decimal.  Whether an identity counts as decimal is
judged by its two codes, and that is less: a digit above nine can hide in a code
that is below a thousand.
-/

namespace Plmn

section Digits

variable {first second third : UInt8}

/-- Three decimal digits are those of the number that they spell. -/
theorem digitAt_threeDigits
    (first_lt : first < 10)
    (second_lt : second < 10)
    (third_lt : third < 10) :
    digitAt (threeDigits first second third) 100 = first ∧
      digitAt (threeDigits first second third) 10 = second ∧
        digitAt (threeDigits first second third) 1 = third := by
  have first_small : first.toNat < 10 := first_lt
  have second_small : second.toNat < 10 := second_lt
  have third_small : third.toNat < 10 := third_lt
  simp only [← UInt8.toNat_inj, digitAt_toNat, threeDigits]
  omega

theorem digitAt_twoDigits
    (first_lt : first < 10)
    (second_lt : second < 10) :
    digitAt (10 * first.toNat + second.toNat) 10 = first ∧
      digitAt (10 * first.toNat + second.toNat) 1 = second := by
  have first_small : first.toNat < 10 := first_lt
  have second_small : second.toNat < 10 := second_lt
  simp only [← UInt8.toNat_inj, digitAt_toNat]
  omega

/-- Three decimal digits spell a number below a thousand. -/
theorem threeDigits_lt
    (first_lt : first < 10)
    (second_lt : second < 10)
    (third_lt : third < 10) :
    threeDigits first second third < 1000 := by
  have first_small : first.toNat < 10 := first_lt
  have second_small : second.toNat < 10 := second_lt
  have third_small : third.toNat < 10 := third_lt
  rw [threeDigits]
  omega

end Digits

end Plmn

namespace NetworkOctets

/-- The network identity is that of the octets one after another. -/
def ofList : List UInt8 → List NetworkOctets
  | first :: second :: third :: others =>
      ⟨first, second, third⟩ :: ofList others
  | _ =>
      []

/-- Octets that fall into threes are those of their networks. -/
theorem flatMap_ofList
    {octets : List UInt8}
    (whole : octets.length % 3 = 0) :
    (ofList octets).flatMap toList = octets := by
  fun_induction ofList octets with
  | case1 first second third others inductionHypothesis =>
      have othersWhole : others.length % 3 = 0 := by
        simp only [List.length_cons] at whole
        omega
      rw [List.flatMap_cons, inductionHypothesis othersWhole]
      rfl
  | case2 octets few =>
      match octets, few with
      | [], _ => rfl
      | [_], _ => cases whole
      | [_, _], _ => cases whole
      | first :: second :: third :: others, few => exact (few first second third others rfl).elim

theorem flatMap_length
    (networks : List NetworkOctets) :
    (networks.flatMap toList).length = 3 * networks.length := by
  induction networks with
  | nil =>
      rfl
  | cons network networks inductionHypothesis =>
      rw [List.flatMap_cons, List.length_append, inductionHypothesis, List.length_cons, Nat.mul_succ,
        Nat.add_comm]
      rfl

/-- All digits are decimal, apart from a filler in place of a third digit of the network code. -/
structure HasDecimalDigits (network : NetworkOctets) : Prop where
  country1_lt : lowNibble network.first < 10
  country2_lt : highNibble network.first < 10
  country3_lt : lowNibble network.second < 10
  network1_lt : lowNibble network.third < 10
  network2_lt : highNibble network.third < 10
  network3 : highNibble network.second < 10 ∨ highNibble network.second = Plmn.filler

variable {network : NetworkOctets}

theorem plmn_of_filler
    (short : highNibble network.second = Plmn.filler) :
    network.plmn =
      ⟨Plmn.threeDigits (lowNibble network.first) (highNibble network.first)
          (lowNibble network.second),
        10 * (lowNibble network.third).toNat + (highNibble network.third).toNat, false⟩ :=
  if_pos short

theorem plmn_of_digit
    (long : highNibble network.second ≠ Plmn.filler) :
    network.plmn =
      ⟨Plmn.threeDigits (lowNibble network.first) (highNibble network.first)
          (lowNibble network.second),
        Plmn.threeDigits (lowNibble network.third) (highNibble network.third)
          (highNibble network.second), true⟩ :=
  if_neg long

/-- The codes are below a thousand, which a network code of two digits always is. -/
theorem isDecimal_iff :
    network.plmn.isDecimal = true ↔
      Plmn.threeDigits (lowNibble network.first) (highNibble network.first)
          (lowNibble network.second) < 1000 ∧
        (highNibble network.second = Plmn.filler ∨
          Plmn.threeDigits (lowNibble network.third) (highNibble network.third)
            (highNibble network.second) < 1000) := by
  by_cases short : highNibble network.second = Plmn.filler
  · have network1 : (lowNibble network.third).toNat < 16 := lowNibble_lt network.third
    have network2 : (highNibble network.third).toNat < 16 := highNibble_lt network.third
    have small : 10 * (lowNibble network.third).toNat + (highNibble network.third).toNat ≤ 999 := by
      omega
    simp only [plmn_of_filler short, Plmn.isDecimal, small, short, decide_true, Bool.and_true,
      decide_eq_true_eq, Nat.lt_succ_iff, true_or, and_true]
  · simp only [plmn_of_digit short, Plmn.isDecimal, short, Bool.and_eq_true, decide_eq_true_eq,
      Nat.lt_succ_iff, false_or]

theorem HasDecimalDigits.isDecimal
    (decimal : network.HasDecimalDigits) :
    network.plmn.isDecimal = true := by
  refine isDecimal_iff.mpr
    ⟨Plmn.threeDigits_lt decimal.country1_lt decimal.country2_lt decimal.country3_lt, ?_⟩
  rcases decimal.network3 with network3_lt | short
  · exact .inr (Plmn.threeDigits_lt decimal.network1_lt decimal.network2_lt network3_lt)
  · exact .inl short

/-- Decimal digits are written back as they were. -/
theorem HasDecimalDigits.toOctets_plmn
    (decimal : network.HasDecimalDigits) :
    network.plmn.toOctets = network.toList := by
  obtain ⟨country1, country2, country3⟩ :=
    Plmn.digitAt_threeDigits decimal.country1_lt decimal.country2_lt decimal.country3_lt
  by_cases short : highNibble network.second = Plmn.filler
  · obtain ⟨network1, network2⟩ :=
      Plmn.digitAt_twoDigits decimal.network1_lt decimal.network2_lt
    simp only [plmn_of_filler short, Plmn.toOctets, Bool.false_eq_true, if_false, country1,
      country2, country3, network1, network2, ← short, joinNibbles_halves]
    rfl
  · have network3_lt := decimal.network3.resolve_right short
    obtain ⟨network1, network2, network3⟩ :=
      Plmn.digitAt_threeDigits decimal.network1_lt decimal.network2_lt network3_lt
    simp only [plmn_of_digit short, Plmn.toOctets, if_true, country1, country2, country3,
      network1, network2, network3, joinNibbles_halves]
    rfl

/-- Octets that are joined from decimal digits have them as digits. -/
theorem hasDecimalDigits_joinNibbles
    {country1 country2 country3 network1 network2 network3 : UInt8}
    (country1_lt : country1 < 10)
    (country2_lt : country2 < 10)
    (country3_lt : country3 < 10)
    (network1_lt : network1 < 10)
    (network2_lt : network2 < 10)
    (network3_digit : network3 < 10 ∨ network3 = Plmn.filler) :
    HasDecimalDigits
      ⟨joinNibbles country2 country1, joinNibbles network3 country3,
        joinNibbles network2 network1⟩ := by
  have small {digit : UInt8} (decimal : digit < 10) : digit < 16 :=
    UInt8.lt_trans decimal (by decide)
  have network3_lt : network3 < 16 := by
    rcases network3_digit with decimal | rfl
    · exact small decimal
    · decide
  constructor
  case country1_lt => rwa [lowNibble_joinNibbles (small country2_lt) (small country1_lt)]
  case country2_lt => rwa [highNibble_joinNibbles (small country2_lt) (small country1_lt)]
  case country3_lt => rwa [lowNibble_joinNibbles network3_lt (small country3_lt)]
  case network1_lt => rwa [lowNibble_joinNibbles (small network2_lt) (small network1_lt)]
  case network2_lt => rwa [highNibble_joinNibbles (small network2_lt) (small network1_lt)]
  case network3 => rwa [highNibble_joinNibbles network3_lt (small country3_lt)]

/-- What a network identity is written with has decimal digits. -/
theorem hasDecimalDigits_of_toOctets
    {plmn : Plmn}
    (written : plmn.toOctets = network.toList) :
    network.HasDecimalDigits := by
  obtain ⟨country, code, isLong⟩ := plmn
  obtain ⟨first, second, third⟩ := network
  have decimal := Plmn.digitAt_lt_ten
  cases isLong with
  | true =>
      cases written
      exact hasDecimalDigits_joinNibbles (decimal country 100) (decimal country 10)
        (decimal country 1) (decimal code 100) (decimal code 10) (.inl (decimal code 1))
  | false =>
      cases written
      exact hasDecimalDigits_joinNibbles (decimal country 100) (decimal country 10)
        (decimal country 1) (decimal code 10) (decimal code 1) (.inr rfl)

end NetworkOctets

namespace ElementValue

/-- Networks are read one after another, whatever digits they hold. -/
theorem networkList_reads_networks
    (networks : List NetworkOctets) :
    OctetDecoder.Reads networkList
      (networks.flatMap NetworkOctets.toList)
      (.list (networks.map fun network => .plmn network.plmn)) := by
  have every :
      (Reader.every readPlmn).Exhausts (networks.flatMap NetworkOctets.toList)
        (networks.map NetworkOctets.plmn) :=
    Reader.every_exhausts
      (fun network _ => networkOctets_parses network)
      (fun _ _ => List.cons_ne_nil _ _)
  have shown :
      (networks.map NetworkOctets.plmn).map Value.plmn =
        networks.map fun network => .plmn network.plmn :=
    List.map_map
  apply Reader.Exhausts.decoder_reads
  intro window shape
  have threes : ¬ window.remaining % 3 ≠ 0 := by
    rw [Window.remaining, shape, NetworkOctets.flatMap_length, Nat.mul_mod_right]
    exact not_not_intro rfl
  rw [Reader.bind_eq_of_ok (Reader.remaining_eq window), if_neg threes, ← shown]
  exact every.returning (fun plmns => Value.list (plmns.map Value.plmn)) window shape

/--
Octets that fall into threes are read as one network identity for every three, in order.
Those with decimal digits are decimal by their codes, and no others are written back as
they were; but codes below a thousand are all that it takes to be decimal by them.
-/
theorem networkList_reads
    {octets : List UInt8}
    (whole : octets.length % 3 = 0) :
    let networks := NetworkOctets.ofList octets
    octets = networks.flatMap NetworkOctets.toList ∧
      OctetDecoder.Reads networkList octets
        (.list (networks.map fun network => .plmn network.plmn)) ∧
      ∀ network ∈ networks,
        (network.HasDecimalDigits → network.plmn.isDecimal = true) ∧
          (network.HasDecimalDigits ↔ network.plmn.toOctets = network.toList) ∧
          (network.plmn.isDecimal = true ↔
            Plmn.threeDigits (lowNibble network.first) (highNibble network.first)
                (lowNibble network.second) < 1000 ∧
              (highNibble network.second = Plmn.filler ∨
                Plmn.threeDigits (lowNibble network.third) (highNibble network.third)
                  (highNibble network.second) < 1000)) := by
  intro networks
  have written : networks.flatMap NetworkOctets.toList = octets :=
    NetworkOctets.flatMap_ofList whole
  have reads := networkList_reads_networks networks
  rw [written] at reads
  refine ⟨written.symm, reads, fun network _ => ⟨?_, ?_, ?_⟩⟩
  · exact NetworkOctets.HasDecimalDigits.isDecimal
  · exact ⟨NetworkOctets.HasDecimalDigits.toOctets_plmn,
      NetworkOctets.hasDecimalDigits_of_toOctets⟩
  · exact NetworkOctets.isDecimal_iff

/-- A network with decimal digits, and one with a digit ten in a country code of 101. -/
theorem networkList_reads_hiddenDigit :
    let octets : List UInt8 := [0x02, 0xF8, 0x39, 0xA0, 0xF1, 0x10]
    let home : NetworkOctets := ⟨0x02, 0xF8, 0x39⟩
    let other : NetworkOctets := ⟨0xA0, 0xF1, 0x10⟩
    octets.length % 3 = 0 ∧
      OctetDecoder.Reads networkList octets
        (.list [.plmn ⟨208, 93, false⟩, .plmn ⟨101, 1, false⟩]) ∧
      home.HasDecimalDigits ∧
      home.plmn.isDecimal = true ∧
      other.plmn.isDecimal = true ∧
      ¬ other.HasDecimalDigits := by
  intro octets home other
  have whole : octets.length % 3 = 0 := by
    decide
  obtain ⟨-, reads, judged⟩ := networkList_reads whole
  obtain ⟨isDecimal, written, -⟩ := judged home (List.mem_cons_self)
  obtain ⟨-, otherWritten, smallCodes⟩ :=
    judged other (List.mem_cons_of_mem _ (List.mem_cons_self))
  have decimal : home.HasDecimalDigits :=
    written.mpr (by decide)
  refine ⟨whole, reads, decimal, isDecimal decimal, smallCodes.mpr (by decide), ?_⟩
  rw [otherWritten]
  decide

/-- A digit above nine is not seen when the codes are judged. -/
theorem networkList_isDecimal_isNotExact :
    let network : NetworkOctets := ⟨0xA0, 0xF1, 0x10⟩
    OctetDecoder.Reads networkList network.toList (.list [.plmn network.plmn]) ∧
      network.plmn.isDecimal = true ∧
      highNibble network.first = 10 ∧
      ¬ (network.plmn.isDecimal = true ↔ network.HasDecimalDigits) := by
  intro network
  have isDecimal : network.plmn.isDecimal = true := by
    decide
  have hidden : highNibble network.first = 10 := by
    decide
  refine ⟨networkList_reads_networks [network], isDecimal, hidden, fun exact => ?_⟩
  have decimal := (exact.mp isDecimal).country2_lt
  rw [hidden] at decimal
  exact absurd decimal (by decide)

end ElementValue

end LteNas
