import LteNas.Octets.Window
import LteNas.Text.Digits

namespace LteNas

/-!
# Internet addresses

The text of addresses: dotted decimal octets, and colon separated hexadecimal
groups with the longest run of zero groups left out.
-/

namespace Address

/-- Octets in decimal, separated by points. -/
def dotted (octets : List UInt8) : String :=
  ".".intercalate (octets.map fun octet => toString octet.toNat)

/-- The sixteen-bit groups of octets. -/
def groups : List UInt8 → List Nat
  | high :: low :: octets =>
      bigEndian [high, low] :: groups octets
  | _ =>
      []

/-- The number of zero groups in front. -/
def leadingZeros (groups : List Nat) : Nat :=
  (groups.takeWhile (· == 0)).length

/-- A run of zero groups: where it starts and how many there are. -/
structure ZeroRun where
  start : Nat
  length : Nat
  deriving Repr, DecidableEq

/-- The first among the longest runs of zero groups, counted from `start`. -/
def longestZeroRun (start : Nat) : List Nat → ZeroRun
  | [] =>
      ⟨start, 0⟩
  | group :: rest =>
      let here := leadingZeros (group :: rest)
      let later := longestZeroRun (start + 1) rest
      if later.length ≤ here then ⟨start, here⟩ else later

/-- Groups in hexadecimal, separated by colons. -/
def joinGroups (groups : List Nat) : String :=
  ":".intercalate (groups.map (Text.hexadecimal 1))

/-- Groups with a run of two or more zeros shortened to two colons. -/
def shortened (groups : List Nat) : String :=
  let run := longestZeroRun 0 groups
  if 1 < run.length then
    joinGroups (groups.take run.start) ++ "::" ++
      joinGroups (groups.drop (run.start + run.length))
  else
    joinGroups groups

/-- The octets in front of a version 4 address that is mapped into version 6. -/
def mappedHead : List UInt8 :=
  [0, 0, 0, 0, 0, 0, 0, 0, 0, 0, 0xFF, 0xFF]

/-- The text of the sixteen octets of a version 6 address. -/
def ipv6 (octets : List UInt8) : String :=
  if octets.take 12 = mappedHead then
    "::ffff:" ++ dotted (octets.drop 12)
  else
    shortened (groups octets)

/-- The text of an interface identifier: an address whose first half is zero. -/
def interfaceIdentifier (octets : List UInt8) : String :=
  ipv6 (List.replicate 8 0 ++ octets)

end Address

end LteNas
