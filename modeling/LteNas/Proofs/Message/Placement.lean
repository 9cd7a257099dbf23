import LteNas.Message.Basic

namespace LteNas

/-!
# Where the parts of a message lie

A message is well placed in a range when its elements and diagnostics lie there,
and when every message that an element carries is well placed in the range of
that element.  Values that carry no message are plain; they are well placed
wherever they stand.
-/

/-- A range is well formed and lies inside another one. -/
structure Span.Within (inner outer : Span) : Prop where
  start_le : outer.start ≤ inner.start
  ordered : inner.start ≤ inner.stop
  stop_le : inner.stop ≤ outer.stop

namespace Span.Within

theorem trans
    {inner between outer : Span}
    (first : inner.Within between)
    (second : between.Within outer) :
    inner.Within outer where
  start_le := Nat.le_trans second.start_le first.start_le
  ordered := first.ordered
  stop_le := Nat.le_trans first.stop_le second.stop_le

protected theorem refl
    {span : Span}
    (ordered : span.start ≤ span.stop) :
    span.Within span where
  start_le := Nat.le_refl _
  ordered := ordered
  stop_le := Nat.le_refl _

end Span.Within

/-- The diagnostics lie in a range. -/
def DiagnosticsWithin
    (span : Span)
    (diagnostics : List Diagnostic) :
    Prop :=
  ∀ diagnostic ∈ diagnostics, diagnostic.span.Within span

mutual

/-- A message lies in a range, and what its elements carry lies in theirs. -/
def Message.Within (span : Span) : Message → Prop
  | ⟨_, _, _, _, _, _, elements, diagnostics⟩ =>
      ElementsWithin span elements ∧ DiagnosticsWithin span diagnostics

/-- The messages inside a value lie in a range. -/
def Value.Within (span : Span) : Value → Prop
  | .message carried => carried.Within span
  | .fields parts => FieldsWithin span parts
  | .list items => ItemsWithin span items
  | _ => True

/-- Elements lie in a range, and what each of them carries lies in its own. -/
def ElementsWithin (span : Span) : List Element → Prop
  | [] => True
  | ⟨_, _, own, value⟩ :: elements =>
      (own.Within span ∧ value.Within own) ∧ ElementsWithin span elements

/-- The messages inside fields lie in a range. -/
def FieldsWithin (span : Span) : List Field → Prop
  | [] => True
  | ⟨_, value⟩ :: fields => value.Within span ∧ FieldsWithin span fields

/-- The messages inside list items lie in a range. -/
def ItemsWithin (span : Span) : List Value → Prop
  | [] => True
  | value :: items => value.Within span ∧ ItemsWithin span items

end

section Within

variable {span : Span}

theorem elementsWithin_iff
    {elements : List Element} :
    ElementsWithin span elements ↔
      ∀ element ∈ elements,
        element.span.Within span ∧ element.value.Within element.span := by
  induction elements with
  | nil =>
      simp [ElementsWithin]
  | cons element elements inductionHypothesis =>
      rcases element with ⟨_, _, _, _⟩
      rw [ElementsWithin, inductionHypothesis, List.forall_mem_cons]

theorem fieldsWithin_iff
    {fields : List Field} :
    FieldsWithin span fields ↔ ∀ part ∈ fields, part.value.Within span := by
  induction fields with
  | nil =>
      simp [FieldsWithin]
  | cons part fields inductionHypothesis =>
      rcases part with ⟨_, _⟩
      rw [FieldsWithin, inductionHypothesis, List.forall_mem_cons]

theorem itemsWithin_iff
    {items : List Value} :
    ItemsWithin span items ↔ ∀ item ∈ items, item.Within span := by
  induction items with
  | nil =>
      simp [ItemsWithin]
  | cons item items inductionHypothesis =>
      rw [ItemsWithin, inductionHypothesis, List.forall_mem_cons]

theorem Message.within_iff
    {message : Message} :
    message.Within span ↔
      (∀ element ∈ message.elements,
        element.span.Within span ∧ element.value.Within element.span) ∧
      DiagnosticsWithin span message.diagnostics := by
  rcases message with ⟨_, _, _, _, _, _, _, _⟩
  rw [Message.Within, elementsWithin_iff]

theorem DiagnosticsWithin.mono
    {outer : Span}
    {diagnostics : List Diagnostic}
    (within : DiagnosticsWithin span diagnostics)
    (wider : span.Within outer) :
    DiagnosticsWithin outer diagnostics :=
  fun diagnostic member => (within diagnostic member).trans wider

theorem Message.Within.mono
    {outer : Span}
    {message : Message}
    (within : message.Within span)
    (wider : span.Within outer) :
    message.Within outer := by
  obtain ⟨elements, diagnostics⟩ := Message.within_iff.mp within
  refine Message.within_iff.mpr ⟨fun element member => ?_, diagnostics.mono wider⟩
  obtain ⟨elementWithin, valueWithin⟩ := elements element member
  exact ⟨elementWithin.trans wider, valueWithin⟩

mutual

theorem Value.Within.mono
    {outer : Span}
    (wider : span.Within outer) :
    {value : Value} → value.Within span → value.Within outer
  | .message carried, within => by
      rw [Value.Within] at within ⊢
      exact Message.Within.mono within wider
  | .fields parts, within => by
      rw [Value.Within] at within ⊢
      exact FieldsWithin.mono wider within
  | .list items, within => by
      rw [Value.Within] at within ⊢
      exact ItemsWithin.mono wider within
  | .number _, _ | .flag _, _ | .coded _ _, _ | .digits _, _ | .text _, _ | .plmn _, _
  | .trackingArea _, _ | .bitRate _, _ | .timer _, _ | .octets _, _ | .handoff _ _, _
  | .ciphered _, _ => by
      trivial

theorem FieldsWithin.mono
    {outer : Span}
    (wider : span.Within outer) :
    {fields : List Field} → FieldsWithin span fields → FieldsWithin outer fields
  | [], _ => trivial
  | ⟨_, _⟩ :: _, within => ⟨within.1.mono wider, FieldsWithin.mono wider within.2⟩

theorem ItemsWithin.mono
    {outer : Span}
    (wider : span.Within outer) :
    {items : List Value} → ItemsWithin span items → ItemsWithin outer items
  | [], _ => trivial
  | _ :: _, within => ⟨within.1.mono wider, ItemsWithin.mono wider within.2⟩

end

end Within

/-! ## Plain values -/

mutual

/-- Nothing in the value is a message or was left ciphered. -/
def Value.IsPlain : Value → Prop
  | .message _ => False
  | .ciphered _ => False
  | .fields parts => FieldsPlain parts
  | .list items => ItemsPlain items
  | _ => True

/-- The values of fields are plain. -/
def FieldsPlain : List Field → Prop
  | [] => True
  | ⟨_, value⟩ :: fields => value.IsPlain ∧ FieldsPlain fields

/-- List items are plain. -/
def ItemsPlain : List Value → Prop
  | [] => True
  | value :: items => value.IsPlain ∧ ItemsPlain items

end

attribute [simp] Value.IsPlain

/-- The value of a field is plain. -/
def Field.IsPlain (part : Field) : Prop :=
  part.value.IsPlain

@[simp] theorem Field.isPlain_mk
    (name : String)
    (value : Value) :
    (Field.mk name value).IsPlain ↔ value.IsPlain :=
  Iff.rfl

theorem fieldsPlain_iff
    {fields : List Field} :
    FieldsPlain fields ↔ ∀ part ∈ fields, part.IsPlain := by
  induction fields with
  | nil =>
      simp [FieldsPlain]
  | cons part fields inductionHypothesis =>
      rcases part with ⟨_, _⟩
      rw [FieldsPlain, inductionHypothesis, List.forall_mem_cons]
      rfl

@[simp] theorem fieldsPlain_nil :
    FieldsPlain [] :=
  trivial

@[simp] theorem fieldsPlain_cons
    {part : Field}
    {fields : List Field} :
    FieldsPlain (part :: fields) ↔ part.IsPlain ∧ FieldsPlain fields := by
  rcases part with ⟨_, _⟩
  rfl

@[simp] theorem fieldsPlain_append
    {first second : List Field} :
    FieldsPlain (first ++ second) ↔ FieldsPlain first ∧ FieldsPlain second := by
  simp only [fieldsPlain_iff, List.forall_mem_append]

@[simp] theorem itemsPlain_iff
    {items : List Value} :
    ItemsPlain items ↔ ∀ item ∈ items, item.IsPlain := by
  induction items with
  | nil =>
      simp [ItemsPlain]
  | cons item items inductionHypothesis =>
      rw [ItemsPlain, inductionHypothesis, List.forall_mem_cons]

mutual

/-- A plain value carries no message that could lie anywhere. -/
theorem Value.IsPlain.within
    (span : Span) :
    {value : Value} → value.IsPlain → value.Within span
  | .fields parts, plain => by
      rw [Value.IsPlain] at plain
      exact FieldsPlain.within span plain
  | .list items, plain => by
      rw [Value.IsPlain] at plain
      exact ItemsPlain.within span plain
  | .message _, plain => plain.elim
  | .ciphered _, plain => plain.elim
  | .number _, _ | .flag _, _ | .coded _ _, _ | .digits _, _ | .text _, _ | .plmn _, _
  | .trackingArea _, _ | .bitRate _, _ | .timer _, _ | .octets _, _ | .handoff _ _, _ => by
      trivial

theorem FieldsPlain.within
    (span : Span) :
    {fields : List Field} → FieldsPlain fields → FieldsWithin span fields
  | [], _ => trivial
  | ⟨_, _⟩ :: _, plain => ⟨plain.1.within span, FieldsPlain.within span plain.2⟩

theorem ItemsPlain.within
    (span : Span) :
    {items : List Value} → ItemsPlain items → ItemsWithin span items
  | [], _ => trivial
  | _ :: _, plain => ⟨plain.1.within span, ItemsPlain.within span plain.2⟩

end

/-! ## Messages inside messages -/

/-- A value carries a message, perhaps in one of its fields or items. -/
inductive Value.Carries : Value → Message → Prop where
  | message {carried : Message} :
      (Value.message carried).Carries carried
  | field {parts : List Field} {part : Field} {carried : Message}
      (member : part ∈ parts)
      (carries : part.value.Carries carried) :
      (Value.fields parts).Carries carried
  | item {items : List Value} {item : Value} {carried : Message}
      (member : item ∈ items)
      (carries : item.Carries carried) :
      (Value.list items).Carries carried

/-- Nothing is carried by a plain value. -/
theorem Value.IsPlain.not_carries
    {value : Value}
    {carried : Message}
    (plain : value.IsPlain) :
    ¬ value.Carries carried := by
  intro carries
  induction carries with
  | message =>
      exact plain
  | field member _ inductionHypothesis =>
      rw [Value.IsPlain, fieldsPlain_iff] at plain
      exact inductionHypothesis (plain _ member)
  | item member _ inductionHypothesis =>
      rw [Value.IsPlain, itemsPlain_iff] at plain
      exact inductionHypothesis (plain _ member)

/-- The message itself, and every message that stands inside it at any depth. -/
inductive Message.Holds : Message → Message → Prop where
  | self {message : Message} :
      message.Holds message
  | nested {message carried inner : Message} {element : Element}
      (member : element ∈ message.elements)
      (carries : element.value.Carries carried)
      (holds : carried.Holds inner) :
      message.Holds inner

/--
At every depth the elements and the diagnostics are well formed ranges among so
many octets, and those of a carried message lie inside the element that carries it.
-/
structure Message.WellPlaced
    (message : Message)
    (length : Nat) :
    Prop where
  elements {inner : Message} {element : Element} :
    message.Holds inner → element ∈ inner.elements →
      element.span.start ≤ element.span.stop ∧ element.span.stop ≤ length
  diagnostics {inner : Message} {diagnostic : Diagnostic} :
    message.Holds inner → diagnostic ∈ inner.diagnostics →
      diagnostic.span.start ≤ diagnostic.span.stop ∧ diagnostic.span.stop ≤ length
  carriedElements {inner carried : Message} {element part : Element} :
    message.Holds inner → element ∈ inner.elements → element.value.Carries carried →
      part ∈ carried.elements → part.span.Within element.span
  carriedDiagnostics
      {inner carried : Message} {element : Element} {diagnostic : Diagnostic} :
    message.Holds inner → element ∈ inner.elements → element.value.Carries carried →
      diagnostic ∈ carried.diagnostics → diagnostic.span.Within element.span

theorem Value.Within.carried
    {span : Span}
    {value : Value}
    {carried : Message}
    (within : value.Within span)
    (carries : value.Carries carried) :
    carried.Within span := by
  induction carries with
  | message =>
      rwa [Value.Within] at within
  | field member _ inductionHypothesis =>
      rw [Value.Within, fieldsWithin_iff] at within
      exact inductionHypothesis (within _ member)
  | item member _ inductionHypothesis =>
      rw [Value.Within, itemsWithin_iff] at within
      exact inductionHypothesis (within _ member)

namespace Message.Within

variable {span : Span} {message inner : Message}

/-- A message inside a well placed one is well placed in some range inside its range. -/
theorem holds
    (within : message.Within span)
    (ordered : span.start ≤ span.stop)
    (holds : message.Holds inner) :
    ∃ own : Span, own.Within span ∧ inner.Within own := by
  induction holds generalizing span with
  | self =>
      exact ⟨span, .refl ordered, within⟩
  | nested member carries _ inductionHypothesis =>
      obtain ⟨elementWithin, valueWithin⟩ := (within_iff.mp within).1 _ member
      obtain ⟨own, ownWithin, innerWithin⟩ :=
        inductionHypothesis (valueWithin.carried carries) elementWithin.ordered
      exact ⟨own, ownWithin.trans elementWithin, innerWithin⟩

theorem wellPlaced
    {length : Nat}
    (within : message.Within ⟨0, length⟩) :
    message.WellPlaced length where
  elements held member := by
    obtain ⟨own, ownWithin, innerWithin⟩ := within.holds (Nat.zero_le _) held
    have inside := ((within_iff.mp innerWithin).1 _ member).1.trans ownWithin
    exact ⟨inside.ordered, inside.stop_le⟩
  diagnostics held member := by
    obtain ⟨own, ownWithin, innerWithin⟩ := within.holds (Nat.zero_le _) held
    have inside := ((within_iff.mp innerWithin).2 _ member).trans ownWithin
    exact ⟨inside.ordered, inside.stop_le⟩
  carriedElements held member carries partMember := by
    obtain ⟨own, -, innerWithin⟩ := within.holds (Nat.zero_le _) held
    have carriedWithin := ((within_iff.mp innerWithin).1 _ member).2.carried carries
    exact ((within_iff.mp carriedWithin).1 _ partMember).1
  carriedDiagnostics held member carries diagnosticMember := by
    obtain ⟨own, -, innerWithin⟩ := within.holds (Nat.zero_le _) held
    have carriedWithin := ((within_iff.mp innerWithin).1 _ member).2.carried carries
    exact (within_iff.mp carriedWithin).2 _ diagnosticMember

end Message.Within

end LteNas
