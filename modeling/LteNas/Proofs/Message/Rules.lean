import LteNas.Message.Basic

namespace LteNas

/-!
# Rules for messages

The texts in a message are of three sorts: names of messages, elements and
fields; words that the decoders put in; and texts that come from outside.  Rules
say what each sort must be like, and what an envelope must have.  A message obeys
them when it does so at every depth.
-/

/-- What the parts of a message must be like. -/
structure Rules where
  /-- Names of messages, labels of elements and names of fields. -/
  name : String → Prop
  /-- Meanings and digits, and what a diagnostic cites. -/
  word : String → Prop
  /-- Texts, and the protocols that octets are handed to. -/
  text : String → Prop
  envelope : Envelope → Prop

/-- The labels and the reasons that the finding cites. -/
def DiagnosticKind.cited : DiagnosticKind → List String
  | .missingMandatory label => [label]
  | .outOfBounds label => [label]
  | .malformedElement label reason => [label, reason]
  | _ => []

def DiagnosticKind.Obeys (rules : Rules) (kind : DiagnosticKind) : Prop :=
  ∀ text ∈ kind.cited, rules.word text

mutual

/-- The message obeys the rules, and so does what it carries. -/
def Message.Obeys (rules : Rules) : Message → Prop
  | ⟨envelope, _, _, _, _, name, elements, diagnostics⟩ =>
      (∀ text ∈ name, rules.name text) ∧
        (∀ outer ∈ envelope, rules.envelope outer) ∧
          ElementsObey rules elements ∧
            ∀ diagnostic ∈ diagnostics, diagnostic.kind.Obeys rules

def Value.Obeys (rules : Rules) : Value → Prop
  | .coded _ meaning => rules.word meaning
  | .digits characters => rules.word characters
  | .text characters => rules.text characters
  | .handoff protocol _ => rules.text protocol
  | .message carried => carried.Obeys rules
  | .fields parts => FieldsObey rules parts
  | .list items => ItemsObey rules items
  | _ => True

def ElementsObey (rules : Rules) : List Element → Prop
  | [] => True
  | ⟨_, label, _, value⟩ :: elements =>
      (rules.name label ∧ value.Obeys rules) ∧ ElementsObey rules elements

def FieldsObey (rules : Rules) : List Field → Prop
  | [] => True
  | ⟨name, value⟩ :: fields =>
      (rules.name name ∧ value.Obeys rules) ∧ FieldsObey rules fields

def ItemsObey (rules : Rules) : List Value → Prop
  | [] => True
  | value :: items => value.Obeys rules ∧ ItemsObey rules items

end

attribute [simp] Value.Obeys

def Element.Obeys (rules : Rules) (element : Element) : Prop :=
  rules.name element.label ∧ element.value.Obeys rules

def Field.Obeys (rules : Rules) (part : Field) : Prop :=
  rules.name part.name ∧ part.value.Obeys rules

section Obeying

variable {rules : Rules}

@[simp] theorem Field.obeys_mk
    (name : String)
    (value : Value) :
    (Field.mk name value).Obeys rules ↔ rules.name name ∧ value.Obeys rules :=
  Iff.rfl

@[simp] theorem elementsObey_iff
    {elements : List Element} :
    ElementsObey rules elements ↔ ∀ element ∈ elements, element.Obeys rules := by
  induction elements with
  | nil =>
      simp [ElementsObey]
  | cons element elements inductionHypothesis =>
      rcases element with ⟨_, _, _, _⟩
      rw [ElementsObey, inductionHypothesis, List.forall_mem_cons]
      rfl

@[simp] theorem fieldsObey_iff
    {fields : List Field} :
    FieldsObey rules fields ↔ ∀ part ∈ fields, part.Obeys rules := by
  induction fields with
  | nil =>
      simp [FieldsObey]
  | cons part fields inductionHypothesis =>
      rcases part with ⟨_, _⟩
      rw [FieldsObey, inductionHypothesis, List.forall_mem_cons]
      rfl

@[simp] theorem itemsObey_iff
    {items : List Value} :
    ItemsObey rules items ↔ ∀ item ∈ items, item.Obeys rules := by
  induction items with
  | nil =>
      simp [ItemsObey]
  | cons item items inductionHypothesis =>
      rw [ItemsObey, inductionHypothesis, List.forall_mem_cons]

theorem Message.obeys_iff
    {message : Message} :
    message.Obeys rules ↔
      (∀ text ∈ message.name, rules.name text) ∧
        (∀ outer ∈ message.envelope, rules.envelope outer) ∧
          (∀ element ∈ message.elements, element.Obeys rules) ∧
            ∀ diagnostic ∈ message.diagnostics, diagnostic.kind.Obeys rules := by
  rcases message with ⟨_, _, _, _, _, _, _, _⟩
  rw [Message.Obeys, elementsObey_iff]

end Obeying

/-! ## Rules together -/

/-- What obeys the rules on either side obeys the others as well. -/
structure Rules.Meet (first second both : Rules) : Prop where
  name : ∀ {text : String}, first.name text → second.name text → both.name text
  word : ∀ {text : String}, first.word text → second.word text → both.word text
  text : ∀ {text : String}, first.text text → second.text text → both.text text
  envelope : ∀ {outer : Envelope}, first.envelope outer → second.envelope outer →
    both.envelope outer

section Meeting

variable {first second both : Rules}

theorem DiagnosticKind.Obeys.meet
    {kind : DiagnosticKind}
    (meet : first.Meet second both)
    (obeys : kind.Obeys first)
    (obeysToo : kind.Obeys second) :
    kind.Obeys both :=
  fun text member => meet.word (obeys text member) (obeysToo text member)

mutual

theorem Message.Obeys.meet
    (meet : first.Meet second both) :
    {message : Message} → message.Obeys first → message.Obeys second → message.Obeys both
  | ⟨_, _, _, _, _, _, _, _⟩, ⟨name, envelope, elements, diagnostics⟩,
      ⟨nameToo, envelopeToo, elementsToo, diagnosticsToo⟩ => by
      refine ⟨fun text member => meet.name (name text member) (nameToo text member),
        fun outer member => meet.envelope (envelope outer member) (envelopeToo outer member),
        ?_, ?_⟩
      · exact ElementsObey.meet meet elements elementsToo
      · intro diagnostic member
        exact (diagnostics diagnostic member).meet meet (diagnosticsToo diagnostic member)

theorem Value.Obeys.meet
    (meet : first.Meet second both) :
    {value : Value} → value.Obeys first → value.Obeys second → value.Obeys both
  | .coded _ _, obeys, obeysToo => meet.word obeys obeysToo
  | .digits _, obeys, obeysToo => meet.word obeys obeysToo
  | .text _, obeys, obeysToo => meet.text obeys obeysToo
  | .handoff _ _, obeys, obeysToo => meet.text obeys obeysToo
  | .message _, obeys, obeysToo => Message.Obeys.meet meet obeys obeysToo
  | .fields _, obeys, obeysToo => FieldsObey.meet meet obeys obeysToo
  | .list _, obeys, obeysToo => ItemsObey.meet meet obeys obeysToo
  | .number _, _, _ | .flag _, _, _ | .plmn _, _, _ | .trackingArea _, _, _ | .bitRate _, _, _
  | .timer _, _, _ | .octets _, _, _ | .ciphered _, _, _ => trivial

theorem ElementsObey.meet
    (meet : first.Meet second both) :
    {elements : List Element} →
      ElementsObey first elements → ElementsObey second elements → ElementsObey both elements
  | [], _, _ => trivial
  | ⟨_, _, _, _⟩ :: _, ⟨⟨name, value⟩, others⟩, ⟨⟨nameToo, valueToo⟩, othersToo⟩ =>
      ⟨⟨meet.name name nameToo, Value.Obeys.meet meet value valueToo⟩,
        ElementsObey.meet meet others othersToo⟩

theorem FieldsObey.meet
    (meet : first.Meet second both) :
    {fields : List Field} →
      FieldsObey first fields → FieldsObey second fields → FieldsObey both fields
  | [], _, _ => trivial
  | ⟨_, _⟩ :: _, ⟨⟨name, value⟩, others⟩, ⟨⟨nameToo, valueToo⟩, othersToo⟩ =>
      ⟨⟨meet.name name nameToo, Value.Obeys.meet meet value valueToo⟩,
        FieldsObey.meet meet others othersToo⟩

theorem ItemsObey.meet
    (meet : first.Meet second both) :
    {items : List Value} →
      ItemsObey first items → ItemsObey second items → ItemsObey both items
  | [], _, _ => trivial
  | _ :: _, ⟨value, others⟩, ⟨valueToo, othersToo⟩ =>
      ⟨Value.Obeys.meet meet value valueToo, ItemsObey.meet meet others othersToo⟩

end

end Meeting

end LteNas
