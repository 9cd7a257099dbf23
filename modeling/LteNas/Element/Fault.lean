import LteNas.Message.Diagnostic

namespace LteNas

/-!
# Faults

Why octets cannot be read as the value of an element.  A fault costs only the
value: the element keeps its octets and a diagnostic says what was wrong.
-/

/-- What a value forbids although its octets are there. -/
inductive Defect where
  | qualityLength (octets : Nat)
  | aggregateLength (octets : Nat)
  | responseLength (octets : Nat)
  | labelOverrun (octets : Nat)
  | reservedCoding (scheme : Nat)
  | remoteAddressType (code : Nat)
  | keyServerAddressType (code : Nat)
  | zeroLength
  deriving Repr, DecidableEq

def Defect.message : Defect → String
  | .qualityLength octets =>
      s!"EPS QoS of {octets} octets, expected 1, 5, 9 or 13"
  | .aggregateLength octets =>
      s!"APN-AMBR of {octets} octets, expected 2, 4 or 6"
  | .responseLength octets =>
      s!"RES of {octets} octets, expected 4 to 16"
  | .labelOverrun octets =>
      s!"APN label of {octets} octets overruns the element"
  | .reservedCoding scheme =>
      s!"reserved coding scheme {scheme}"
  | .remoteAddressType code =>
      s!"remote UE address type {code}"
  | .keyServerAddressType code =>
      s!"PKMF address type {code}"
  | .zeroLength =>
      "zero length"

/-- Why a value cannot be read. -/
inductive Fault where
  | tooShort (shortage : Shortage)
  | lengthMismatch (expected actual : Nat)
  | invalidValue (defect : Defect)
  deriving Repr, DecidableEq

namespace Fault

def message : Fault → String
  | .tooShort shortage =>
      shortage.message
  | .lengthMismatch expected actual =>
      s!"Length mismatch: expected {expected} bytes, got {actual}"
  | .invalidValue defect =>
      s!"Invalid value: {defect.message}"

/-- How a fault of the part called `label` is recorded. -/
def diagnosis (fault : Fault) (label : String) : DiagnosticKind :=
  match fault with
  | .invalidValue defect =>
      .malformedElement label defect.message
  | _ =>
      .outOfBounds label

end Fault

end LteNas
