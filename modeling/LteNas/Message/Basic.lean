import LteNas.BitRate
import LteNas.Envelope
import LteNas.Identity.Plmn
import LteNas.Message.Diagnostic
import LteNas.Timer

namespace LteNas

/-!
# Decoded messages

A message is a list of labelled elements over ranges of the capture.  The value
of an element is a leaf, a record of named fields, a list, or a whole message
that the element carries.
-/

mutual

/-- What an element, a field or a list item holds. -/
inductive Value where
  | number (value : Nat)
  | flag (isSet : Bool)
  /-- A code and what it means. -/
  | coded (code : Nat) (meaning : String)
  | digits (text : String)
  | text (text : String)
  | plmn (plmn : Plmn)
  | trackingArea (area : TrackingArea)
  | bitRate (rate : BitRate)
  | timer (timer : Timer)
  /-- Octets that were not looked into. -/
  | octets (octets : List UInt8)
  /-- Octets that belong to another protocol. -/
  | handoff (protocol : String) (octets : List UInt8)
  /-- Octets that could not be deciphered. -/
  | ciphered (octets : List UInt8)
  | message (message : Message)
  | fields (fields : List Field)
  | list (items : List Value)
  deriving Repr

/-- A named part of a value. -/
structure Field where
  name : String
  value : Value
  deriving Repr

/-- A labelled part of a message with the octets that it covers. -/
structure Element where
  /-- The identifier of an optional element; of a half-octet one its nibble. -/
  tag : Option UInt8
  label : String
  span : Span
  value : Value
  deriving Repr

/-- A message as far as it could be read. -/
structure Message where
  envelope : Option Envelope
  discriminator : Option UInt8
  /-- The bearer identity of a session management message. -/
  bearerIdentity : Option UInt8
  /-- The transaction identity of a session management message. -/
  transactionIdentity : Option UInt8
  messageType : Option UInt8
  name : Option String
  elements : List Element
  diagnostics : List Diagnostic
  deriving Repr

end

/-- A message of which nothing is known yet. -/
def Message.empty : Message where
  envelope := none
  discriminator := none
  bearerIdentity := none
  transactionIdentity := none
  messageType := none
  name := none
  elements := []
  diagnostics := []

/-! ## Looking into messages -/

def Message.element? (message : Message) (label : String) : Option Element :=
  message.elements.find? fun element => element.label == label

/-- The value of the first element with a label. -/
def Message.value? (message : Message) (label : String) : Option Value :=
  (message.element? label).map Element.value

/-- A diagnostic of the message itself satisfies a test. -/
def Message.hasDiagnostic (message : Message) (test : DiagnosticKind → Bool) : Bool :=
  message.diagnostics.any fun diagnostic => test diagnostic.kind

namespace Value

/-- The first field with a name. -/
def field? : Value → String → Option Value
  | .fields parts, name =>
      (parts.find? fun part => part.name == name).map Field.value
  | _, _ =>
      none

def number? : Value → Option Nat
  | .number count => some count
  | .coded code _ => some code
  | .flag isSet => some isSet.toNat
  | _ => none

def meaning? : Value → Option String
  | .coded _ meaning => some meaning
  | _ => none

def text? : Value → Option String
  | .digits characters => some characters
  | .text characters => some characters
  | _ => none

def octets? : Value → Option (List UInt8)
  | .octets content => some content
  | .ciphered content => some content
  | .handoff _ content => some content
  | _ => none

def message? : Value → Option Message
  | .message carried => some carried
  | _ => none

def items? : Value → Option (List Value)
  | .list items => some items
  | _ => none

end Value

/-! ## Diagnostics at every depth -/

mutual

/-- The diagnostics of a message, then those of the messages that its elements carry. -/
def Message.allDiagnostics : Message → List Diagnostic
  | ⟨_, _, _, _, _, _, elements, diagnostics⟩ =>
      diagnostics ++ elementDiagnostics elements

def Value.nestedDiagnostics : Value → List Diagnostic
  | .message carried => carried.allDiagnostics
  | .fields parts => fieldDiagnostics parts
  | .list items => itemDiagnostics items
  | _ => []

/-- The diagnostics of the messages inside elements, in order. -/
def elementDiagnostics : List Element → List Diagnostic
  | [] => []
  | ⟨_, _, _, value⟩ :: elements =>
      value.nestedDiagnostics ++ elementDiagnostics elements

/-- The diagnostics of the messages inside fields, in order. -/
def fieldDiagnostics : List Field → List Diagnostic
  | [] => []
  | ⟨_, value⟩ :: fields =>
      value.nestedDiagnostics ++ fieldDiagnostics fields

/-- The diagnostics of the messages inside list items, in order. -/
def itemDiagnostics : List Value → List Diagnostic
  | [] => []
  | value :: items =>
      value.nestedDiagnostics ++ itemDiagnostics items

end

/-! ## Walking a path -/

/-- One step of a path from a message to a value. -/
inductive PathStep where
  /-- The element of a message or the field of a value with this name. -/
  | name (name : String)
  /-- An item of a list. -/
  | item (index : Nat)
  /-- The message that a value carries. -/
  | carried
  deriving Repr, DecidableEq

/-- A place in a decoded message. -/
inductive Place where
  | message (message : Message)
  | value (value : Value)

def Place.step? : Place → PathStep → Option Place
  | .message current, .name label =>
      (current.value? label).map .value
  | .value current, .name name =>
      (current.field? name).map .value
  | .value current, .item index =>
      (current.items?.bind fun items => items[index]?).map .value
  | .value current, .carried =>
      current.message?.map .message
  | _, _ =>
      none

/-- The place at the end of a path, or the index of the step that leads nowhere. -/
def Place.walk (place : Place) (steps : List PathStep) : Except Nat Place :=
  go 0 place steps
where
  /-- Walk on, the next step being the one at `index`. -/
  go (index : Nat) (place : Place) : List PathStep → Except Nat Place
    | [] =>
        .ok place
    | step :: steps =>
        match place.step? step with
        | some place => go (index + 1) place steps
        | none => .error index

end LteNas
