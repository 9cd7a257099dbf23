import LteNas.Proofs.Message.Tree

namespace LteNas

/-!
# The number of nodes

How many nodes the tree of a message has can be counted on the message: a node
for each part, and three for the header of a protected message.
-/

/-- The header of a protected message has both its parts. -/
def Envelope.IsComplete (envelope : Envelope) : Prop :=
  envelope.kind.isProtected = true →
    envelope.authenticationCode.isSome = true ∧ envelope.sequenceNumber.isSome = true

/-- The lines about the header of a message. -/
def envelopeLineCount (envelope : Option Envelope) : Nat :=
  if envelope.any fun outer => outer.kind.isProtected then 3 else 0

mutual

/--
One for the message itself, three for a protected header, one for each identity
that it has, and one for each element and each diagnostic, besides what the
elements have in them.
-/
def Message.nodeCount : Message → Nat
  | ⟨envelope, _, bearerIdentity, transactionIdentity, _, _, elements, diagnostics⟩ =>
      1 + envelopeLineCount envelope + bearerIdentity.toList.length +
        transactionIdentity.toList.length + elementNodeCount elements + diagnostics.length

/-- The nodes below the one that a value begins on: one for each field or item, or a message. -/
def Value.nodeCount : Value → Nat
  | .fields parts => fieldNodeCount parts
  | .list items => itemNodeCount items
  | .message carried => carried.nodeCount
  | _ => 0

def elementNodeCount : List Element → Nat
  | [] => 0
  | ⟨_, _, _, value⟩ :: elements => 1 + value.nodeCount + elementNodeCount elements

def fieldNodeCount : List Field → Nat
  | [] => 0
  | ⟨_, value⟩ :: fields => 1 + value.nodeCount + fieldNodeCount fields

def itemNodeCount : List Value → Nat
  | [] => 0
  | value :: items => 1 + value.nodeCount + itemNodeCount items

end

/-- Every protected header of a message has both its parts. -/
def Rules.enveloped : Rules where
  name := fun _ => True
  word := fun _ => True
  text := fun _ => True
  envelope := Envelope.IsComplete

theorem Envelope.length_lines
    {envelope : Envelope}
    (complete : envelope.IsComplete) :
    envelope.lines.length = if envelope.kind.isProtected then 3 else 0 := by
  rw [lines]
  split
  · rename_i isProtected
    obtain ⟨code, number⟩ := complete isProtected
    obtain ⟨codeValue, code_eq⟩ := Option.isSome_iff_exists.mp code
    obtain ⟨numberValue, number_eq⟩ := Option.isSome_iff_exists.mp number
    rw [code_eq, number_eq]
    rfl
  · rfl

theorem Message.length_headNodes
    {message : Message}
    (complete : ∀ outer ∈ message.envelope, outer.IsComplete)
    (level : Nat) :
    (message.headNodes level).length =
      1 + envelopeLineCount message.envelope + message.bearerIdentity.toList.length +
        message.transactionIdentity.toList.length := by
  have envelope_eq :
      ((message.envelope.map Envelope.lines).getD []).length =
        envelopeLineCount message.envelope := by
    cases found : message.envelope with
    | none =>
        rfl
    | some outer =>
        exact Envelope.length_lines (complete outer found)
  simp only [headNodes, details, List.length_cons, List.length_map, List.length_append,
    Option.length_toList, Option.isSome_map, envelope_eq]
  omega

-- the recursion is that of the nodes: from a message to its values and back
mutual

theorem Value.length_nodesAfter
    (label : String)
    (level : Nat) :
    {value : Value} → value.Obeys .enveloped →
      (value.nodesAfter label level).length = 1 + value.nodeCount
  | .fields parts, obeys => by
      rw [Value.nodesAfter, List.length_cons, length_fieldNodes (level + 1) obeys,
        Value.nodeCount, Nat.add_comm]
  | .list items, obeys => by
      rw [Value.nodesAfter, List.length_cons, length_itemNodes (level + 1) 0 obeys,
        Value.nodeCount, Nat.add_comm]
  | .message carried, obeys => by
      rw [Value.nodesAfter, List.length_cons, Message.length_nodes (level + 1) obeys,
        Value.nodeCount, Nat.add_comm]
  | .number _, _ | .flag _, _ | .coded _ _, _ | .digits _, _ | .text _, _ | .plmn _, _
  | .trackingArea _, _ | .bitRate _, _ | .timer _, _ | .octets _, _ | .handoff _ _, _
  | .ciphered _, _ => by
      rw [Value.nodesAfter_of_leaf (by trivial), Value.nodeCount]
      · rfl
      all_goals simp

/-- The tree of a message has as many nodes as can be counted on the message. -/
theorem Message.length_nodes
    (level : Nat) :
    {message : Message} → message.Obeys .enveloped →
      (message.nodes level).length = message.nodeCount
  | ⟨_, _, _, _, _, _, elements, diagnostics⟩, ⟨_, complete, elementsObey, _⟩ => by
      rw [Message.nodes, List.length_append, List.length_append,
        Message.length_headNodes complete, length_elementNodes (level + 1) elementsObey,
        List.length_map, Message.nodeCount]

theorem length_elementNodes
    (level : Nat) :
    {elements : List Element} → ElementsObey .enveloped elements →
      (elementNodes level elements).length = elementNodeCount elements
  | [], _ => rfl
  | ⟨_, label, span, value⟩ :: elements, ⟨⟨_, obeys⟩, others⟩ => by
      rw [elementNodes, List.length_append, Value.length_nodesAfter _ level obeys,
        length_elementNodes level others, elementNodeCount]

theorem length_fieldNodes
    (level : Nat) :
    {fields : List Field} → FieldsObey .enveloped fields →
      (fieldNodes level fields).length = fieldNodeCount fields
  | [], _ => rfl
  | ⟨name, value⟩ :: fields, ⟨⟨_, obeys⟩, others⟩ => by
      rw [fieldNodes, List.length_append, Value.length_nodesAfter name level obeys,
        length_fieldNodes level others, fieldNodeCount]

theorem length_itemNodes
    (level index : Nat) :
    {items : List Value} → ItemsObey .enveloped items →
      (itemNodes level index items).length = itemNodeCount items
  | [], _ => rfl
  | value :: items, ⟨obeys, others⟩ => by
      rw [itemNodes, List.length_append, Value.length_nodesAfter _ level obeys,
        length_itemNodes level (index + 1) others, itemNodeCount]

end

end LteNas
