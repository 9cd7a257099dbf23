import LteNas.Element.Decoder

namespace LteNas

/-!
# Element catalogues

The body of a message is a list of entries in a fixed order.  Each entry has a
wire format, and optional entries are told by their tag.  The walk visits every
entry once: how octets are cut into elements depends on the formats alone, and
what the elements mean on the decoders alone.
-/

/-- How an element stands on the wire. -/
inductive WireFormat where
  /-- The low half of an octet whose high half is still to come. -/
  | lowHalf
  /-- The high half of an octet, which is thereby read. -/
  | highHalf
  /-- A value of fixed length. -/
  | fixed (length : Nat)
  /-- One octet of length and a value. -/
  | sized
  /-- Two octets of length and a value. -/
  | sizedExtended
  /-- A tag and a value of fixed length. -/
  | tagged (tag : UInt8) (length : Nat)
  /-- A tag in the high half of an octet and a value in the low half. -/
  | taggedHalf (tag : UInt8)
  /-- A tag, one octet of length and a value. -/
  | taggedSized (tag : UInt8)
  /-- A tag, two octets of length and a value. -/
  | taggedSizedExtended (tag : UInt8)
  deriving Repr, DecidableEq

namespace WireFormat

/-- The tag that tells an optional element; a mandatory one has none. -/
def tag? : WireFormat → Option UInt8
  | .tagged tag _ => some tag
  | .taggedHalf tag => some tag
  | .taggedSized tag => some tag
  | .taggedSizedExtended tag => some tag
  | _ => none

/-- An element of this format may start with the octet. -/
def accepts (format : WireFormat) (first : UInt8) : Bool :=
  match format with
  | .taggedHalf tag => highNibble first == tag
  | format => format.tag?.all (first == ·)

/-- The window of the value behind tag and length, and the window behind the value. -/
def readBody
    (format : WireFormat)
    (window : Window) :
    Except Shortage (Window × Window) :=
  match format with
  | .fixed length =>
      window.inner length
  | .sized => do
      let (length, window) ← window.number 1
      window.inner length
  | .sizedExtended => do
      let (length, window) ← window.number 2
      window.inner length
  | .tagged _ length => do
      let (_, window) ← window.octet
      window.inner length
  | .taggedSized _ => do
      let (_, window) ← window.octet
      let (length, window) ← window.number 1
      window.inner length
  | .taggedSizedExtended _ => do
      let (_, window) ← window.octet
      let (length, window) ← window.number 2
      window.inner length
  | .lowHalf =>
      window.inner 1
  | .highHalf =>
      window.inner 1
  | .taggedHalf _ =>
      window.inner 1

end WireFormat

/-- What stands in front of a window where an element of a format is expected. -/
inductive Framing where
  /-- An optional element is not there. -/
  | absent
  /-- A mandatory element is expected, but no octet is left. -/
  | missing
  /-- The element runs past the end. -/
  | overrun
  /-- Half an octet, and the window behind it. -/
  | half (nibble : UInt8) (after : Window)
  /-- A value, and the window behind it. -/
  | body (body after : Window)
  deriving Repr, DecidableEq

/-- Cut an element of a format off a window. -/
def WireFormat.frame (format : WireFormat) (window : Window) : Framing :=
  match window.peek? with
  | none =>
      if format.tag?.isSome then .absent else .missing
  | some first =>
      if format.accepts first then
        match format with
        | .lowHalf =>
            .half (lowNibble first) window
        | .highHalf =>
            .half (highNibble first) (window.advance 1)
        | .taggedHalf _ =>
            .half (lowNibble first) (window.advance 1)
        | format =>
            match format.readBody window with
            | .ok (body, after) =>
                .body body after
            | .error _ =>
                .overrun
      else
        .absent

/-- An entry of a catalogue. -/
structure ElementSpec where
  label : String
  format : WireFormat
  decoder : Decoder

/-- The entries of a message body in order. -/
abbrev Catalogue := List ElementSpec

namespace ElementSpec

/-- A mandatory element in bits 1 to 4. -/
def lowHalf (label : String) (decode : NibbleDecoder) : ElementSpec :=
  ⟨label, .lowHalf, .nibble decode⟩

/-- A mandatory element in bits 5 to 8. -/
def highHalf (label : String) (decode : NibbleDecoder) : ElementSpec :=
  ⟨label, .highHalf, .nibble decode⟩

def fixed (label : String) (length : Nat) (decode : OctetDecoder) : ElementSpec :=
  ⟨label, .fixed length, .octets decode⟩

/-- A mandatory element with one octet of length. -/
def sized (label : String) (decode : OctetDecoder) : ElementSpec :=
  ⟨label, .sized, .octets decode⟩

/-- A mandatory element with two octets of length. -/
def sizedExtended (label : String) (decode : OctetDecoder) : ElementSpec :=
  ⟨label, .sizedExtended, .octets decode⟩

/-- An optional element of fixed length. -/
def tagged (tag : UInt8) (label : String) (length : Nat) (decode : OctetDecoder) : ElementSpec :=
  ⟨label, .tagged tag length, .octets decode⟩

/-- An optional element of one octet. -/
def taggedHalf (tag : UInt8) (label : String) (decode : NibbleDecoder) : ElementSpec :=
  ⟨label, .taggedHalf tag, .nibble decode⟩

/-- An optional element with one octet of length. -/
def taggedSized (tag : UInt8) (label : String) (decode : OctetDecoder) : ElementSpec :=
  ⟨label, .taggedSized tag, .octets decode⟩

/-- An optional element with two octets of length. -/
def taggedSizedExtended (tag : UInt8) (label : String) (decode : OctetDecoder) : ElementSpec :=
  ⟨label, .taggedSizedExtended tag, .octets decode⟩

end ElementSpec

/-- How a walk ended. -/
inductive Flow where
  /-- Every entry was visited. -/
  | done
  /-- An entry could not be cut off. -/
  | stopped
  deriving Repr, DecidableEq

/-- The outcome of a walk. -/
structure Walk where
  flow : Flow
  elements : List Element
  diagnostics : List Diagnostic
  /-- The octets that the walk left unread. -/
  window : Window
  deriving Repr

/-- A walk with an element and its diagnostics in front. -/
def Walk.prepend
    (walk : Walk)
    (element : Element)
    (diagnostics : List Diagnostic) :
    Walk :=
  { walk with
    elements := element :: walk.elements
    diagnostics := diagnostics ++ walk.diagnostics }

namespace ElementSpec

/-- An element of the entry over the octets between two windows. -/
def element (spec : ElementSpec) (span : Span) (value : Value) : Element :=
  ⟨spec.format.tag?, spec.label, span, value⟩

/-- The value of a reading; where there is none, the octets of the body. -/
def valueOf (reading : Reading) (body : Window) : Value :=
  match reading.outcome with
  | .ok (value, _) => value
  | .error _ => .octets body.rest

/-- The diagnostics of a reading; a fault is the last of them and covers the body. -/
def diagnosticsOf
    (spec : ElementSpec)
    (reading : Reading)
    (body : Window) :
    List Diagnostic :=
  match reading.outcome with
  | .ok _ =>
      reading.diagnostics
  | .error fault =>
      reading.diagnostics ++ [⟨fault.diagnosis spec.label, body.remainingSpan⟩]

end ElementSpec

/-- The end of a walk: octets that no entry took are extraneous. -/
def Walk.finish (window : Window) : Walk :=
  if window.isEmpty then
    ⟨.done, [], [], window⟩
  else
    ⟨.done, [], [⟨.extraneousData, window.remainingSpan⟩], window.exhaust⟩

def Catalogue.walk (scope : Scope) (window : Window) : Catalogue → Walk
  | [] =>
      .finish window
  | spec :: specs =>
      match spec.format.frame window with
      | .absent =>
          walk scope window specs
      | .missing =>
          ⟨.stopped, [],
            [⟨.missingMandatory spec.label, window.remainingSpan⟩], window⟩
      | .overrun =>
          ⟨.stopped, [],
            [⟨.outOfBounds spec.label, window.remainingSpan⟩], window.exhaust⟩
      | .half nibble after =>
          let start := window.position
          (walk scope after specs).prepend
            (spec.element ⟨start, start + 1⟩ (spec.decoder.decodeNibble nibble)) []
      | .body body after =>
          let reading := spec.decoder.decodeOctets scope body
          let scope := { scope with containerType := reading.containerType }
          (walk scope after specs).prepend
            (spec.element
              ⟨window.position, after.position⟩
              (ElementSpec.valueOf reading body))
            (spec.diagnosticsOf reading body)

end LteNas
