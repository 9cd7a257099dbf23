import LteNas.Octets.Window
import LteNas.Text.Digits

namespace LteNas

/-!
# Diagnostics

Decoding never fails.  What is wrong with a message is recorded beside its
elements, with the octets that it concerns.
-/

/-- What can be wrong with a message. -/
inductive DiagnosticKind where
  | missingMandatory (label : String)
  | unknownMessageType (code : UInt8)
  | unknownIdentity (code : UInt8)
  | unknownTypeOfList (code : UInt8)
  | wrongNumberOfElements (declared found : Nat)
  | extraneousData
  | wrongDiscriminator (code : UInt8)
  | outOfBounds (label : String)
  | decipherFailed
  | malformedElement (label reason : String)
  | nestingLimit (limit : Nat)
  deriving Repr, DecidableEq

def DiagnosticKind.text : DiagnosticKind → String
  | .missingMandatory label =>
      s!"Missing mandatory element: {label}"
  | .unknownMessageType code =>
      s!"Unknown message type 0x{Text.hexadecimal 2 code.toNat}"
  | .unknownIdentity code =>
      s!"Unknown type of identity {code.toNat}"
  | .unknownTypeOfList code =>
      s!"Unknown type of list {code.toNat}"
  | .wrongNumberOfElements declared found =>
      s!"Wrong number of elements: {declared} declared, {found} found"
  | .extraneousData =>
      "Extraneous data"
  | .wrongDiscriminator code =>
      s!"Wrong protocol discriminator {code.toNat}"
  | .outOfBounds label =>
      s!"Length exceeds buffer in {label}"
  | .decipherFailed =>
      "Deciphering failed, payload left ciphered"
  | .malformedElement label reason =>
      s!"Malformed {label}: {reason}"
  | .nestingLimit limit =>
      s!"Nesting depth limit of {limit} reached"

/-- A finding and the octets that it concerns. -/
structure Diagnostic where
  kind : DiagnosticKind
  span : Span
  deriving Repr, DecidableEq

/-- The text of a range of octets. -/
def Span.text (span : Span) : String :=
  s!"[{span.start}..{span.stop}]"

def Diagnostic.text (diagnostic : Diagnostic) : String :=
  diagnostic.kind.text ++ " " ++ diagnostic.span.text

end LteNas
