namespace LteNas

/-!
# Bit rates

A rate is a value and the unit that it was coded in.  Session rates are coded
in one octet, which a second and a third octet extend; the extended rates carry
a sixteen-bit value and the octet of its unit.  Products stop at the ceiling of
a 64-bit counter.
-/

/-- The unit of a bit rate. -/
inductive RateUnit where
  | kbps
  | mbps
  | gbps
  | tbps
  | pbps
  deriving Repr, DecidableEq

namespace RateUnit

/-- The number of kilobits per second in one unit. -/
def kilobits : RateUnit → Nat
  | .kbps => 1
  | .mbps => 1000
  | .gbps => 1000000
  | .tbps => 1000000000
  | .pbps => 1000000000000

def text : RateUnit → String
  | .kbps => "kbps"
  | .mbps => "Mbps"
  | .gbps => "Gbps"
  | .tbps => "Tbps"
  | .pbps => "Pbps"

end RateUnit

/-- A value and its unit. -/
structure BitRate where
  value : Nat
  unit : RateUnit
  deriving Repr, DecidableEq

/-- The step of an extended rate: so many of a unit. -/
structure RateStep where
  multiplier : Nat
  unit : RateUnit
  deriving Repr, DecidableEq

namespace BitRate

/-- The greatest value that a product can reach. -/
def ceiling : Nat :=
  Nat.pow 2 64 - 1

/-- A product that stops at the ceiling. -/
def saturatingProduct (left right : Nat) : Nat :=
  min (left * right) ceiling

/-- A rate in kilobits per second. -/
def kbps (value : Nat) : BitRate :=
  ⟨value, .kbps⟩

/-- A rate in megabits per second. -/
def mbps (value : Nat) : BitRate :=
  ⟨value, .mbps⟩

def zero : BitRate :=
  kbps 0

def scaled (value : Nat) (step : RateStep) : BitRate :=
  ⟨saturatingProduct value step.multiplier, step.unit⟩

def kilobits (rate : BitRate) : Nat :=
  saturatingProduct rate.value rate.unit.kilobits

def isZero (rate : BitRate) : Bool :=
  rate.value == 0

/-- The value and the sign of the unit. -/
def text (rate : BitRate) : String :=
  s!"{rate.value} {rate.unit.text}"

/-- The rate of a base octet, up to 8640 kbps; 0 and 255 both stand for none. -/
def ofBase (code : UInt8) : BitRate :=
  let number := code.toNat
  if number = 0 ∨ number = 0xFF then zero
  else if number < 0x40 then kbps number
  else if number < 0x80 then kbps (64 + (number - 0x40) * 8)
  else kbps (576 + (number - 0x80) * 64)

/-- The rate of an extended octet, up to 256 Mbps. -/
def ofExtended (code : UInt8) : BitRate :=
  let number := code.toNat
  if number = 0 then zero
  else if number ≤ 0x4A then kbps (8600 + number * 100)
  else if number ≤ 0xBA then mbps (16 + (number - 0x4A))
  else if number ≤ 0xFA then mbps (128 + (number - 0xBA) * 2)
  else mbps 256

/-- The rate of a second extended octet, up to 10 Gbps. -/
def ofFurtherExtended (code : UInt8) : BitRate :=
  let number := code.toNat
  if number = 0 then zero
  else if number ≤ 0x3D then mbps (256 + number * 4)
  else if number ≤ 0xA1 then mbps (500 + (number - 0x3D) * 10)
  else if number ≤ 0xF6 then mbps (1500 + (number - 0xA1) * 100)
  else mbps 10000

/-- An optional octet that is there and not zero. -/
def used? (code : Option UInt8) : Option UInt8 :=
  code.filter (· != 0)

/-- The rate of the most extended octet that is in use. -/
def ofQuality (base : UInt8) (extended further : Option UInt8) : BitRate :=
  match used? further, used? extended with
  | some code, _ =>
      ofFurtherExtended code
  | none, some code =>
      ofExtended code
  | none, none =>
      ofBase base

/-- A number of kilobits in megabits where that is exact. -/
def ofKilobits (kilobits : Nat) : BitRate :=
  if kilobits % 1000 = 0 then mbps (kilobits / 1000) else kbps kilobits

/-- The aggregate rate: the second extended octet adds 256 Mbps each to the extended rate. -/
def ofAggregate (base : UInt8) (extended further : Option UInt8) : BitRate :=
  match used? further, used? extended with
  | some code, some low =>
      ofKilobits (code.toNat * 256000 + (ofExtended low).kilobits)
  | some code, none =>
      ofKilobits (code.toNat * 256000)
  | none, some low =>
      ofExtended low
  | none, none =>
      ofBase base

end BitRate

namespace RateStep

/-- The steps above 256 Mbps, which both extended rates share. -/
def ofHighCode (code : UInt8) : RateStep :=
  let number := code.toNat
  if 0x07 ≤ number ∧ number ≤ 0x0B then ⟨Nat.pow 4 (number - 0x07), .gbps⟩
  else if 0x0C ≤ number ∧ number ≤ 0x10 then ⟨Nat.pow 4 (number - 0x0C), .tbps⟩
  else if 0x11 ≤ number ∧ number ≤ 0x15 then ⟨Nat.pow 4 (number - 0x11), .pbps⟩
  else ⟨256, .pbps⟩

/-- The step of an extended aggregate rate; the lowest three codes are 1 Mbps each. -/
def ofAggregateCode (code : UInt8) : RateStep :=
  let number := code.toNat
  if number ≤ 0x02 then ⟨1, .mbps⟩
  else if number ≤ 0x06 then ⟨Nat.pow 4 (number - 0x02), .mbps⟩
  else ofHighCode code

/-- The step of an extended quality rate; code zero says that the value is not used. -/
def ofQualityCode (code : UInt8) : RateStep :=
  let number := code.toNat
  if number = 0x00 then ⟨0, .kbps⟩
  else if number = 0x01 then ⟨200, .kbps⟩
  else if number ≤ 0x06 then ⟨Nat.pow 4 (number - 0x02), .mbps⟩
  else ofHighCode code

end RateStep

end LteNas
