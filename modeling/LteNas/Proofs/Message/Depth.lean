import LteNas.Proofs.Message.Placement

namespace LteNas

/-!
# The depth of a message inside another one

The diagnostics at every depth are those of the messages that a message holds.
-/

/-- A message holds another one so many levels below itself. -/
inductive Message.HoldsAt : Message → Nat → Message → Prop where
  | self {message : Message} :
      message.HoldsAt 0 message
  | nested {message carried inner : Message} {element : Element} {depth : Nat}
      (member : element ∈ message.elements)
      (carries : element.value.Carries carried)
      (holds : carried.HoldsAt depth inner) :
      message.HoldsAt (depth + 1) inner

/-- A message inside a value, at some depth, has the diagnostic. -/
def Value.Tells (value : Value) (diagnostic : Diagnostic) : Prop :=
  ∃ carried depth inner,
    value.Carries carried ∧ Message.HoldsAt carried depth inner ∧ diagnostic ∈ inner.diagnostics

section Telling

variable {diagnostic : Diagnostic}

-- the recursion is that of the diagnostics: from a message to its values and back
mutual

theorem Message.exists_holdsAt :
    {message : Message} → diagnostic ∈ message.allDiagnostics →
      ∃ depth inner, message.HoldsAt depth inner ∧ diagnostic ∈ inner.diagnostics
  | ⟨_, _, _, _, _, _, elements, diagnostics⟩, member => by
      rw [Message.allDiagnostics] at member
      rcases List.mem_append.mp member with own | nested
      · exact ⟨0, _, .self, own⟩
      · obtain ⟨element, elementMember, carried, depth, inner, carries, holds, reported⟩ :=
          exists_tells_of_elements nested
        exact ⟨depth + 1, inner, .nested elementMember carries holds, reported⟩

theorem Value.tells_of_mem :
    {value : Value} → diagnostic ∈ value.nestedDiagnostics → value.Tells diagnostic
  | .message carried, member => by
      rw [Value.nestedDiagnostics] at member
      obtain ⟨depth, inner, holds, reported⟩ := Message.exists_holdsAt member
      exact ⟨carried, depth, inner, .message, holds, reported⟩
  | .fields parts, member => by
      rw [Value.nestedDiagnostics] at member
      obtain ⟨part, partMember, carried, depth, inner, carries, holds, reported⟩ :=
        exists_tells_of_fields member
      exact ⟨carried, depth, inner, .field partMember carries, holds, reported⟩
  | .list items, member => by
      rw [Value.nestedDiagnostics] at member
      obtain ⟨item, itemMember, carried, depth, inner, carries, holds, reported⟩ :=
        exists_tells_of_items member
      exact ⟨carried, depth, inner, .item itemMember carries, holds, reported⟩

theorem exists_tells_of_elements :
    {elements : List Element} → diagnostic ∈ elementDiagnostics elements →
      ∃ element ∈ elements, element.value.Tells diagnostic
  | ⟨_, _, _, value⟩ :: elements, member => by
      rw [elementDiagnostics] at member
      rcases List.mem_append.mp member with first | others
      · exact ⟨_, List.mem_cons_self, Value.tells_of_mem first⟩
      · obtain ⟨element, elementMember, tells⟩ := exists_tells_of_elements others
        exact ⟨element, List.mem_cons_of_mem _ elementMember, tells⟩

theorem exists_tells_of_fields :
    {fields : List Field} → diagnostic ∈ fieldDiagnostics fields →
      ∃ part ∈ fields, part.value.Tells diagnostic
  | ⟨_, value⟩ :: fields, member => by
      rw [fieldDiagnostics] at member
      rcases List.mem_append.mp member with first | others
      · exact ⟨_, List.mem_cons_self, Value.tells_of_mem first⟩
      · obtain ⟨part, partMember, tells⟩ := exists_tells_of_fields others
        exact ⟨part, List.mem_cons_of_mem _ partMember, tells⟩

theorem exists_tells_of_items :
    {items : List Value} → diagnostic ∈ itemDiagnostics items →
      ∃ item ∈ items, item.Tells diagnostic
  | value :: items, member => by
      rw [itemDiagnostics] at member
      rcases List.mem_append.mp member with first | others
      · exact ⟨value, List.mem_cons_self, Value.tells_of_mem first⟩
      · obtain ⟨item, itemMember, tells⟩ := exists_tells_of_items others
        exact ⟨item, List.mem_cons_of_mem _ itemMember, tells⟩

end

theorem elementDiagnostics_eq_flatMap
    (elements : List Element) :
    elementDiagnostics elements =
      elements.flatMap fun element => element.value.nestedDiagnostics := by
  induction elements with
  | nil =>
      rfl
  | cons element elements inductionHypothesis =>
      rcases element with ⟨_, _, _, _⟩
      rw [elementDiagnostics, inductionHypothesis, List.flatMap_cons]

theorem fieldDiagnostics_eq_flatMap
    (fields : List Field) :
    fieldDiagnostics fields = fields.flatMap fun part => part.value.nestedDiagnostics := by
  induction fields with
  | nil =>
      rfl
  | cons part fields inductionHypothesis =>
      rcases part with ⟨_, _⟩
      rw [fieldDiagnostics, inductionHypothesis, List.flatMap_cons]

theorem itemDiagnostics_eq_flatMap
    (items : List Value) :
    itemDiagnostics items = items.flatMap Value.nestedDiagnostics := by
  induction items with
  | nil =>
      rfl
  | cons item items inductionHypothesis =>
      rw [itemDiagnostics, inductionHypothesis, List.flatMap_cons]

theorem Value.Carries.mem_nestedDiagnostics
    {value : Value}
    {carried : Message}
    (carries : value.Carries carried)
    (member : diagnostic ∈ carried.allDiagnostics) :
    diagnostic ∈ value.nestedDiagnostics := by
  induction carries with
  | message =>
      rwa [Value.nestedDiagnostics]
  | field partMember _ inductionHypothesis =>
      rw [Value.nestedDiagnostics, fieldDiagnostics_eq_flatMap]
      exact List.mem_flatMap_of_mem partMember (inductionHypothesis member)
  | item itemMember _ inductionHypothesis =>
      rw [Value.nestedDiagnostics, itemDiagnostics_eq_flatMap]
      exact List.mem_flatMap_of_mem itemMember (inductionHypothesis member)

theorem Message.HoldsAt.mem_allDiagnostics
    {message inner : Message}
    {depth : Nat}
    (holds : message.HoldsAt depth inner)
    (member : diagnostic ∈ inner.diagnostics) :
    diagnostic ∈ message.allDiagnostics := by
  induction holds with
  | @self message =>
      rcases message with ⟨_, _, _, _, _, _, _, _⟩
      rw [Message.allDiagnostics]
      exact List.mem_append_left _ member
  | @nested message _ _ _ _ elementMember carries _ inductionHypothesis =>
      rcases message with ⟨_, _, _, _, _, _, elements, _⟩
      rw [Message.allDiagnostics, elementDiagnostics_eq_flatMap]
      apply List.mem_append_right
      exact List.mem_flatMap_of_mem elementMember
        (carries.mem_nestedDiagnostics (inductionHypothesis member))

/-- The diagnostics at every depth are those of the messages at every depth. -/
theorem Message.mem_allDiagnostics_iff
    {message : Message} :
    diagnostic ∈ message.allDiagnostics ↔
      ∃ depth inner, message.HoldsAt depth inner ∧ diagnostic ∈ inner.diagnostics :=
  ⟨Message.exists_holdsAt, fun ⟨_, _, holds, member⟩ => holds.mem_allDiagnostics member⟩

end Telling

end LteNas
