import LteNas.Message.Basic
import LteNas.Octets.Hex
import LteNas.Text.Blank

namespace LteNas

/-!
# Showing messages

A message is shown as an indented tree with a line for each element, field, list
item and diagnostic.  A value alone is shown on one line.
-/

def nameOrUnknown (name : Option String) : String :=
  name.getD "Unknown message"

def octetText (octets : List UInt8) : String :=
  if octets.isEmpty then "(empty)" else Hex.encode octets

/-! ## One line -/

mutual

def Value.line : Value → String
  | .number count => toString count
  | .flag isSet => if isSet then "1" else "0"
  | .coded code meaning => s!"{meaning} ({code})"
  | .digits characters => characters
  | .text characters => characters
  | .plmn plmn => plmn.text
  | .trackingArea area => area.text
  | .bitRate rate => rate.text
  | .timer setting => setting.text
  | .octets content => octetText content
  | .handoff protocol content => s!"[{protocol}] {Hex.encode content}"
  | .ciphered content => s!"ciphered, {content.length} octets"
  | .message carried => nameOrUnknown carried.name
  | .fields parts => ", ".intercalate (fieldLines parts)
  | .list items => s!"{items.length} items"

/-- Name and value of each field. -/
def fieldLines : List Field → List String
  | [] => []
  | ⟨name, value⟩ :: fields => (name ++ ": " ++ value.line) :: fieldLines fields

end

/-! ## The tree -/

/-- The indentation of a tree level. -/
def indent (level : Nat) : String :=
  String.ofList (List.replicate (4 * level) ' ')

/-- The protocol and the type of a message in brackets, as far as they are known. -/
def typeText (protocol : Option String) (messageType : Option UInt8) : String :=
  let code := messageType.map fun code => "0x" ++ Text.hexadecimal 2 code.toNat
  match protocol, code with
  | some protocol, some code => s!" ({protocol}, {code})"
  | some protocol, none => s!" ({protocol})"
  | none, some code => s!" ({code})"
  | none, none => ""

/-- The lines about a protected header. -/
def Envelope.lines (envelope : Envelope) : List String :=
  if envelope.kind.isProtected then
    [s!"Security header type: {envelope.kind.text}"] ++
      (envelope.authenticationCode.map fun code =>
        "Message authentication code: 0x" ++ Text.hexadecimal 8 code).toList ++
      (envelope.sequenceNumber.map fun number =>
        s!"Sequence number: {number.toNat}").toList
  else
    []

/-- The lines about a message itself: a headline, its envelope and its identities. -/
def Message.headLines (message : Message) (level : Nat) : List String :=
  let protocol :=
    (message.discriminator.bind Protocol.ofDiscriminator?).map Protocol.name
  let details :=
    (message.envelope.map Envelope.lines).getD [] ++
      (message.bearerIdentity.map fun identity =>
        s!"EPS bearer identity: {identity.toNat}").toList ++
      (message.transactionIdentity.map fun identity =>
        s!"Procedure transaction identity: {identity.toNat}").toList
  (indent level ++ nameOrUnknown message.name ++ typeText protocol message.messageType) ::
    details.map (indent (level + 1) ++ ·)

mutual

/-- The lines of a value behind a label that already stands on the first of them. -/
def Value.linesAfter (head : String) (level : Nat) : Value → List String
  | .fields parts => head :: fieldTree (level + 1) parts
  | .list items => s!"{head}: {items.length} items" :: itemTree (level + 1) 0 items
  | .message carried => head :: carried.lines (level + 1)
  | leaf => [s!"{head}: {leaf.line}"]

def Message.lines (level : Nat) : Message → List String
  | message@⟨_, _, _, _, _, _, elements, diagnostics⟩ =>
      message.headLines level ++ elementTree (level + 1) elements ++
        diagnostics.map fun diagnostic => s!"{indent (level + 1)}! {diagnostic.text}"

/-- The lines of elements, each with its range. -/
def elementTree (level : Nat) : List Element → List String
  | [] => []
  | ⟨_, label, span, value⟩ :: elements =>
      value.linesAfter (indent level ++ label ++ " " ++ span.text) level ++
        elementTree level elements

/-- The lines of fields, each under its name. -/
def fieldTree (level : Nat) : List Field → List String
  | [] => []
  | ⟨name, value⟩ :: fields =>
      value.linesAfter (indent level ++ name) level ++ fieldTree level fields

/-- The lines of list items, each under its index. -/
def itemTree (level index : Nat) : List Value → List String
  | [] => []
  | value :: items =>
      value.linesAfter s!"{indent level}[{index}]" level ++
        itemTree level (index + 1) items

end

/-- The tree of a message, without blank characters at its end. -/
def Message.text (message : Message) : String :=
  String.ofList (Text.trimEnd ("\n".intercalate (message.lines 0)).toList)

end LteNas
