namespace LteNas

/-!
# Timers

A timer octet holds a value in its low five bits and a unit in its high three.
One unit says that the timer is off.
-/

/-- The setting of a timer. -/
inductive Timer where
  | seconds (count : Nat)
  | deactivated
  deriving Repr, DecidableEq

namespace Timer

def text : Timer → String
  | .seconds count => s!"{count} s"
  | .deactivated => "deactivated"

/-- The seconds in each unit of the first two timer formats. -/
def unitSeconds (code : Nat) : Option Nat :=
  match code with
  | 0 => some 2
  | 2 => some 360
  | 7 => none
  | _ => some 60

/-- The seconds in each unit of the third timer format. -/
def longUnitSeconds (code : Nat) : Option Nat :=
  match code with
  | 0 => some 600
  | 1 => some 3600
  | 2 => some 36000
  | 3 => some 2
  | 4 => some 30
  | 5 => some 60
  | 6 => some 1152000
  | _ => none

/-- The setting of a timer octet under the units of its format. -/
def ofOctet (units : Nat → Option Nat) (octet : UInt8) : Timer :=
  match units (octet >>> 5).toNat with
  | some perUnit =>
      .seconds ((octet &&& 0x1F).toNat * perUnit)
  | none =>
      .deactivated

end Timer

end LteNas
