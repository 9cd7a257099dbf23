import LteNas.Element.Decoder

namespace LteNas

/-!
# Quality of service

The class of a bearer and the rates that it is given.
-/

namespace ElementValue

/-- The classes of quality that have a meaning of their own. -/
def standardClasses : List Nat :=
  [1, 2, 3, 4, 5, 6, 7, 8, 9, 65, 66, 69, 70]

def qualityClass (code : UInt8) : Value :=
  let number := code.toNat
  let meaning :=
    if number ∈ standardClasses then s!"QCI {number}"
    else if 128 ≤ number ∧ number ≤ 254 then "Operator-specific QCI"
    else "Reserved"
  .coded number meaning

def rateField (name : String) (rate : BitRate) : Field :=
  ⟨name, .bitRate rate⟩

/-- The names of the four rates of a bearer in the order of their octets. -/
def qualityRateNames : List String :=
  [ "Maximum bit rate for uplink",
    "Maximum bit rate for downlink",
    "Guaranteed bit rate for uplink",
    "Guaranteed bit rate for downlink" ]

/-- The rates of a bearer from its octets and the octets that extend them. -/
def qualityRates (base extended further : List UInt8) : List Field :=
  qualityRateNames.zip (List.range 4) |>.map fun (name, index) =>
    rateField name
      (BitRate.ofQuality (base.getD index 0) extended[index]? further[index]?)

/-- The octets of one layer of rates, or none at the end. -/
def readRateLayer (width : Nat) : Reader (List UInt8) := do
  return (← Reader.ifMore (Reader.octets width)).getD []

/-- The class and the rates of a bearer, in one, five, nine or thirteen octets. -/
def quality : OctetDecoder :=
  Reader.decoder do
    let length ← Reader.remaining
    if length ∈ [1, 5, 9, 13] then
      let code ← Reader.octet
      let base ← readRateLayer 4
      let extended ← readRateLayer 4
      let further ← readRateLayer 4
      let rates := if base.isEmpty then [] else qualityRates base extended further
      return .fields
        (⟨"Quality of Service Class Identifier (QCI)", qualityClass code⟩ :: rates)
    else
      Reader.fail (.invalidValue (.qualityLength length))

/-- The rates of a bearer in sixteen-bit values and the octets of their units. -/
def extendedQuality : OctetDecoder :=
  Reader.decoder do
    Reader.expectExactly 10
    let maximumStep := RateStep.ofQualityCode (← Reader.octet)
    let maximumUp ← Reader.number 2
    let maximumDown ← Reader.number 2
    let guaranteedStep := RateStep.ofQualityCode (← Reader.octet)
    let guaranteedUp ← Reader.number 2
    let guaranteedDown ← Reader.number 2
    return .fields
      [ rateField "Maximum bit rate for uplink" (.scaled maximumUp maximumStep),
        rateField "Maximum bit rate for downlink" (.scaled maximumDown maximumStep),
        rateField "Guaranteed bit rate for uplink" (.scaled guaranteedUp guaranteedStep),
        rateField "Guaranteed bit rate for downlink" (.scaled guaranteedDown guaranteedStep) ]

/-- The rate of all bearers to a network together, in two, four or six octets. -/
def aggregateRate : OctetDecoder :=
  Reader.decoder do
    let length ← Reader.remaining
    if length ∈ [2, 4, 6] then
      let base ← readRateLayer 2
      let extended ← readRateLayer 2
      let further ← readRateLayer 2
      let rateAt (index : Nat) : BitRate :=
        .ofAggregate (base.getD index 0) extended[index]? further[index]?
      return .fields
        [ rateField "APN-AMBR for downlink" (rateAt 0),
          rateField "APN-AMBR for uplink" (rateAt 1) ]
    else
      Reader.fail (.invalidValue (.aggregateLength length))

/-- A sixteen-bit rate behind the octet of its unit. -/
def readAggregate : Reader BitRate := do
  let step := RateStep.ofAggregateCode (← Reader.octet)
  return .scaled (← Reader.number 2) step

/-- The rate of all bearers to a network together, in sixteen-bit values. -/
def extendedAggregateRate : OctetDecoder :=
  Reader.decoder do
    Reader.expectExactly 6
    let down ← readAggregate
    let up ← readAggregate
    return .fields
      [ rateField "APN-AMBR for downlink" down,
        rateField "APN-AMBR for uplink" up ]

end ElementValue

end LteNas
