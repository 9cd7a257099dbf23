import LteNas.Config.Basic
import LteNas.Element.Reader
import LteNas.Link
import LteNas.Message.Basic

namespace LteNas

/-!
# Decoders of element values

A decoder reads the octets of one element inside a scope: the settings, what the
message around it has established, and a way to decode a message that the
element carries.  What it hands back is all that it can bring about.
-/

/-- The two ways an element carries a message. -/
inductive Carriage where
  /-- With a security header of its own. -/
  | complete
  /-- Without a security header. -/
  | bare
  deriving Repr, DecidableEq

/-- What all messages of a run share. -/
structure Setup where
  config : Config
  key : Option Block
  direction : Direction
  deriving Repr

/-- What the decoders of one message may consult. -/
structure Scope extends Setup where
  /-- The number of messages around this one. -/
  depth : Nat
  /-- The message came integrity protected and partially ciphered. -/
  partiallyCiphered : Bool
  /-- The type that announces the next generic container. -/
  containerType : Option UInt8
  /-- The message in a window and the window behind it, or nothing when it is nested too deep. -/
  nested : Carriage → Window → Option (Message × Window)

/-- What a decoder hands back. -/
structure Reading where
  /-- The value and the window behind it, or why there is none. -/
  outcome : Except Fault (Value × Window)
  diagnostics : List Diagnostic
  /-- The type that announces the next generic container, from here on. -/
  containerType : Option UInt8

/-- A decoder of half an octet. -/
abbrev NibbleDecoder := UInt8 → Value

abbrev OctetDecoder := Scope → Window → Reading

/-- A decoder of either width. -/
inductive Decoder where
  | nibble (decode : NibbleDecoder)
  | octets (decode : OctetDecoder)

/-- The decoder that needs nothing but the octets. -/
def Reader.decoder (reader : Reader Value) : OctetDecoder :=
  fun scope window =>
    ⟨reader window, [], scope.containerType⟩

def Reader.reporting (reader : Reader (Value × List Diagnostic)) : OctetDecoder :=
  fun scope window =>
    match reader window with
    | .error fault =>
        ⟨.error fault, [], scope.containerType⟩
    | .ok ((value, diagnostics), after) =>
        ⟨.ok (value, after), diagnostics, scope.containerType⟩

namespace Decoder

/-- The value of half an octet; without a half-octet decoder it is its number. -/
def decodeNibble (decoder : Decoder) (nibble : UInt8) : Value :=
  match decoder with
  | .nibble decode => decode nibble
  | .octets _ => .number nibble.toNat

/-- The value of whole octets; a half-octet decoder gets the low half of the first. -/
def decodeOctets (decoder : Decoder) (scope : Scope) (body : Window) : Reading :=
  match decoder with
  | .octets decode =>
      decode scope body
  | .nibble decode =>
      let reader : Reader Value := do
        return decode (lowNibble (← Reader.octet))
      reader.decoder scope body

end Decoder

/-! ## Parts of values -/

def numberField (name : String) (value : Nat) : Field :=
  ⟨name, .number value⟩

def octetsField (name : String) (octets : List UInt8) : Field :=
  ⟨name, .octets octets⟩

def textField (name text : String) : Field :=
  ⟨name, .text text⟩

/-- Bit `place` of an octet, the least significant one being bit 1. -/
def bit (octet : UInt8) (place : Nat) : Bool :=
  octet.toNat.testBit (place - 1)

/-- A field that holds one bit. -/
def flagField (name : String) (octet : UInt8) (place : Nat) : Field :=
  ⟨name, .flag (bit octet place)⟩

/-- Fields that hold bits 8 to 1 in this order; bits beyond the names are left out. -/
def flagFields (octet : UInt8) (names : List String) : List Field :=
  names.mapIdx fun index name => flagField name octet (8 - index)

/-- A code with its meaning from a table; a code outside the table has the meaning `other`. -/
def codedBy (table : List (Nat × String)) (other : String) (code : UInt8) : Value :=
  .coded code.toNat ((table.lookup code.toNat).getD other)

/-- One bit as a code with a meaning for either state. -/
def codedBit (octet : UInt8) (place : Nat) (set clear : String) : Value :=
  if bit octet place then .coded 1 set else .coded 0 clear

def optionalField (name : String) (value : Option Value) : List Field :=
  (value.map fun value => ⟨name, value⟩).toList

end LteNas
