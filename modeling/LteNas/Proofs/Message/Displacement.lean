import LteNas.Proofs.Message.Placement

namespace LteNas

/-!
# Messages read elsewhere

The same octets may stand further on in a capture, and deeper inside other
messages.  What is read from them is then displaced: every range at every depth
moves by as many octets, and a nesting limit that was met counts as many levels
more.  Nothing else of a message depends on where its octets stand.
-/

/-- How much further on, and how much deeper, the same octets stand. -/
structure Displacement where
  octets : Nat
  levels : Nat
  deriving Repr, DecidableEq

/-- The same range further on. -/
def Span.displace
    (move : Displacement)
    (span : Span) :
    Span :=
  ⟨span.start + move.octets, span.stop + move.octets⟩

/-- The same finding deeper inside. -/
def DiagnosticKind.displace
    (move : Displacement) :
    DiagnosticKind → DiagnosticKind
  | .nestingLimit limit => .nestingLimit (limit + move.levels)
  | kind => kind

/-- The same finding further on and deeper inside. -/
def Diagnostic.displace
    (move : Displacement)
    (diagnostic : Diagnostic) :
    Diagnostic :=
  ⟨diagnostic.kind.displace move, diagnostic.span.displace move⟩

mutual

/-- The same message further on and deeper inside. -/
def Message.displace (move : Displacement) : Message → Message
  | ⟨envelope, discriminator, bearerIdentity, transactionIdentity, messageType, name,
      elements, diagnostics⟩ =>
      ⟨envelope, discriminator, bearerIdentity, transactionIdentity, messageType, name,
        displaceElements move elements, diagnostics.map (Diagnostic.displace move)⟩

/-- The same value with its messages further on and deeper inside. -/
def Value.displace (move : Displacement) : Value → Value
  | .message carried => .message (carried.displace move)
  | .fields parts => .fields (displaceFields move parts)
  | .list items => .list (displaceItems move items)
  | value => value

/-- The same elements further on and deeper inside. -/
def displaceElements (move : Displacement) : List Element → List Element
  | [] => []
  | ⟨tag, label, span, value⟩ :: elements =>
      ⟨tag, label, span.displace move, value.displace move⟩ :: displaceElements move elements

/-- The same fields with their messages further on and deeper inside. -/
def displaceFields (move : Displacement) : List Field → List Field
  | [] => []
  | ⟨name, value⟩ :: fields =>
      ⟨name, value.displace move⟩ :: displaceFields move fields

/-- The same list items with their messages further on and deeper inside. -/
def displaceItems (move : Displacement) : List Value → List Value
  | [] => []
  | value :: items => value.displace move :: displaceItems move items

end

/-- The same element further on and deeper inside. -/
def Element.displace
    (move : Displacement)
    (element : Element) :
    Element :=
  ⟨element.tag, element.label, element.span.displace move, element.value.displace move⟩

section Displace

variable (move : Displacement)

@[simp] theorem displaceElements_eq_map
    (elements : List Element) :
    displaceElements move elements = elements.map (Element.displace move) := by
  induction elements with
  | nil =>
      rfl
  | cons element elements inductionHypothesis =>
      rcases element with ⟨_, _, _, _⟩
      rw [displaceElements, inductionHypothesis]
      rfl

/-- Only the elements and the diagnostics of a message are displaced. -/
theorem Message.displace_eq
    (message : Message) :
    message.displace move =
      { message with
        elements := message.elements.map (Element.displace move)
        diagnostics := message.diagnostics.map (Diagnostic.displace move) } := by
  rcases message with ⟨_, _, _, _, _, _, _, _⟩
  rw [Message.displace, displaceElements_eq_map]

mutual

/-- A plain value is the same wherever it stands. -/
theorem Value.IsPlain.displace_eq :
    {value : Value} → value.IsPlain → value.displace move = value
  | .fields parts, plain => by
      rw [Value.IsPlain] at plain
      rw [Value.displace, FieldsPlain.displace_eq plain]
  | .list items, plain => by
      rw [Value.IsPlain] at plain
      rw [Value.displace, ItemsPlain.displace_eq plain]
  | .message _, plain => plain.elim
  | .ciphered _, plain => plain.elim
  | .number _, _ | .flag _, _ | .coded _ _, _ | .digits _, _ | .text _, _ | .plmn _, _
  | .trackingArea _, _ | .bitRate _, _ | .timer _, _ | .octets _, _ | .handoff _ _, _ => rfl

theorem FieldsPlain.displace_eq :
    {fields : List Field} → FieldsPlain fields → displaceFields move fields = fields
  | [], _ => rfl
  | ⟨_, _⟩ :: _, plain => by
      rw [displaceFields, plain.1.displace_eq, FieldsPlain.displace_eq plain.2]

theorem ItemsPlain.displace_eq :
    {items : List Value} → ItemsPlain items → displaceItems move items = items
  | [], _ => rfl
  | _ :: _, plain => by
      rw [displaceItems, plain.1.displace_eq, ItemsPlain.displace_eq plain.2]

end

end Displace

end LteNas
