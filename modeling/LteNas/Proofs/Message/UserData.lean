import LteNas.Message.Basic

namespace LteNas

/-!
# Messages without the protocol of user data

Which protocol user data is handed to is not on the wire.  A message with bare
user data has in its place the octets alone, at every depth, and is otherwise
what it was.
-/

/-- The element holds user data. -/
def Element.IsUserData (element : Element) : Prop :=
  element.label = "User data container"

instance (element : Element) : Decidable element.IsUserData :=
  inferInstanceAs (Decidable (element.label = "User data container"))

/-- The octets of a value, whichever protocol they belong to. -/
def Value.bare (value : Value) : Value :=
  .octets (value.octets?.getD [])

mutual

/-- The message with bare user data. -/
def Message.withBareData : Message → Message
  | ⟨envelope, discriminator, bearerIdentity, transactionIdentity, messageType, name,
      elements, diagnostics⟩ =>
      ⟨envelope, discriminator, bearerIdentity, transactionIdentity, messageType, name,
        elementsWithBareData elements, diagnostics⟩

/-- The value with bare user data in the messages that it carries. -/
def Value.withBareData : Value → Value
  | .message carried => .message carried.withBareData
  | .fields parts => .fields (fieldsWithBareData parts)
  | .list items => .list (itemsWithBareData items)
  | value => value

/-- User data among the elements is bare, and so it is in what the other elements carry. -/
def elementsWithBareData : List Element → List Element
  | [] => []
  | ⟨tag, label, span, value⟩ :: elements =>
      ⟨tag, label, span,
        if label = "User data container" then value.bare else value.withBareData⟩ ::
          elementsWithBareData elements

def fieldsWithBareData : List Field → List Field
  | [] => []
  | ⟨name, value⟩ :: fields => ⟨name, value.withBareData⟩ :: fieldsWithBareData fields

def itemsWithBareData : List Value → List Value
  | [] => []
  | value :: items => value.withBareData :: itemsWithBareData items

end

/-- The element with bare user data, be it its own or that of a message that it carries. -/
def Element.withBareData (element : Element) : Element :=
  { element with
    value := if element.IsUserData then element.value.bare else element.value.withBareData }

theorem elementsWithBareData_eq_map
    (elements : List Element) :
    elementsWithBareData elements = elements.map Element.withBareData := by
  induction elements with
  | nil =>
      rfl
  | cons element elements inductionHypothesis =>
      rcases element with ⟨_, _, _, _⟩
      rw [elementsWithBareData, inductionHypothesis]
      rfl

/-- Only the elements of a message have user data in them. -/
theorem Message.withBareData_eq
    (message : Message) :
    message.withBareData =
      { message with elements := message.elements.map Element.withBareData } := by
  rcases message with ⟨_, _, _, _, _, _, _, _⟩
  rw [Message.withBareData, elementsWithBareData_eq_map]

end LteNas
