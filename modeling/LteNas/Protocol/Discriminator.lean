namespace LteNas

/-!
# Protocol discriminators

The low nibble of the first octet of a message names the protocol that the
message belongs to.
-/

/-- The protocols that are told apart. -/
inductive Protocol where
  | sessionManagement
  | mobilityManagement
  | testProcedures
  deriving Repr, DecidableEq

namespace Protocol

def discriminator : Protocol → UInt8
  | .sessionManagement => 0x2
  | .mobilityManagement => 0x7
  | .testProcedures => 0xF

def ofDiscriminator? (code : UInt8) : Option Protocol :=
  match code.toNat with
  | 0x2 => some .sessionManagement
  | 0x7 => some .mobilityManagement
  | 0xF => some .testProcedures
  | _ => none

def name : Protocol → String
  | .sessionManagement => "ESM"
  | .mobilityManagement => "EMM"
  | .testProcedures => "Test procedures"

def discriminatorOf (octet : UInt8) : UInt8 :=
  octet &&& 0x0F

/-- A message may start with this octet. -/
def isKnownStart (octet : UInt8) : Bool :=
  (ofDiscriminator? (discriminatorOf octet)).isSome

end Protocol

end LteNas
