import LteNas.Message.Render
import LteNas.Proofs.Message.Rules
import LteNas.Proofs.Text.Headings

namespace LteNas

/-!
# The tree of a message

A message is shown as a tree, a line for each node.  A node is about the message
itself, about one of its elements, about a part of a value, or about a finding.
-/

/-- A node of the tree that a message is shown as. -/
structure Node where
  level : Nat
  /-- What the line of the node says behind the indentation. -/
  text : String
  /-- The finding that the node tells. -/
  finding? : Option Diagnostic
  deriving Repr, DecidableEq

namespace Node

def plain (level : Nat) (text : String) : Node :=
  ⟨level, text, none⟩

def telling (level : Nat) (diagnostic : Diagnostic) : Node :=
  ⟨level, "! " ++ diagnostic.text, some diagnostic⟩

def line (node : Node) : String :=
  indent node.level ++ node.text

end Node

/-- What the lines below the headline of a message say about the message itself. -/
def Message.details (message : Message) : List String :=
  (message.envelope.map Envelope.lines).getD [] ++
    (message.bearerIdentity.map fun identity =>
      s!"EPS bearer identity: {identity.toNat}").toList ++
    (message.transactionIdentity.map fun identity =>
      s!"Procedure transaction identity: {identity.toNat}").toList

def Message.headline (message : Message) : String :=
  let protocol :=
    (message.discriminator.bind Protocol.ofDiscriminator?).map Protocol.name
  nameOrUnknown message.name ++ typeText protocol message.messageType

/-- The nodes about a message itself. -/
def Message.headNodes (message : Message) (level : Nat) : List Node :=
  .plain level message.headline :: message.details.map (.plain (level + 1))

mutual

/-- The nodes of a value, the first of which begins with a label. -/
def Value.nodesAfter (label : String) (level : Nat) : Value → List Node
  | .fields parts =>
      .plain level label :: fieldNodes (level + 1) parts
  | .list items =>
      .plain level (label ++ s!": {items.length} items") :: itemNodes (level + 1) 0 items
  | .message carried =>
      .plain level label :: carried.nodes (level + 1)
  | leaf =>
      [.plain level (label ++ (": " ++ leaf.line))]

def Message.nodes (level : Nat) : Message → List Node
  | message@⟨_, _, _, _, _, _, elements, diagnostics⟩ =>
      message.headNodes level ++ elementNodes (level + 1) elements ++
        diagnostics.map (.telling (level + 1))

/-- The nodes of elements, each labelled with its range. -/
def elementNodes (level : Nat) : List Element → List Node
  | [] => []
  | ⟨_, label, span, value⟩ :: elements =>
      value.nodesAfter (label ++ (" " ++ span.text)) level ++ elementNodes level elements

def fieldNodes (level : Nat) : List Field → List Node
  | [] => []
  | ⟨name, value⟩ :: fields =>
      value.nodesAfter name level ++ fieldNodes level fields

/-- The nodes of list items, each labelled with its index. -/
def itemNodes (level index : Nat) : List Value → List Node
  | [] => []
  | value :: items =>
      value.nodesAfter s!"[{index}]" level ++ itemNodes level (index + 1) items

end

/-- The value stands on the line of its label. -/
def Value.IsLeaf : Value → Prop
  | .fields _ => False
  | .list _ => False
  | .message _ => False
  | _ => True

theorem Value.nodesAfter_of_leaf
    {value : Value}
    (leaf : value.IsLeaf)
    (label : String)
    (level : Nat) :
    value.nodesAfter label level = [.plain level (label ++ (": " ++ value.line))] := by
  cases value <;> first | rfl | exact leaf.elim

/-! ## Lines and nodes -/

theorem Message.headLines_eq
    (message : Message)
    (level : Nat) :
    message.headLines level = (message.headNodes level).map Node.line := by
  simp only [headLines, headNodes, List.map_cons, List.map_map]
  congr 1
  exact String.append_assoc

theorem Value.linesAfter_of_leaf
    {value : Value}
    (leaf : value.IsLeaf)
    (label : String)
    (level : Nat) :
    value.linesAfter (indent level ++ label) level =
      (value.nodesAfter label level).map Node.line := by
  have line_eq :
      s!"{indent level ++ label}: {value.line}" =
        indent level ++ (label ++ (": " ++ value.line)) := by
    rw [← String.append_assoc, ← String.append_assoc]
    rfl
  rw [nodesAfter_of_leaf leaf, List.map_singleton]
  cases value <;> first | exact leaf.elim | exact congrArg (fun line => [line]) line_eq

theorem countLine_eq
    (label : String)
    (level count : Nat) :
    s!"{indent level ++ label}: {count} items" =
      indent level ++ (label ++ s!": {count} items") := by
  rw [← String.append_assoc, ← String.append_assoc, ← String.append_assoc]
  rfl

mutual

theorem Value.linesAfter_eq
    (label : String)
    (level : Nat) :
    (value : Value) →
      value.linesAfter (indent level ++ label) level =
        (value.nodesAfter label level).map Node.line
  | .fields parts => by
      rw [Value.linesAfter, Value.nodesAfter, fieldTree_eq]
      rfl
  | .list items => by
      rw [Value.linesAfter, Value.nodesAfter, itemTree_eq, countLine_eq]
      rfl
  | .message carried => by
      rw [Value.linesAfter, Value.nodesAfter, Message.lines_eq]
      rfl
  | .number _ | .flag _ | .coded _ _ | .digits _ | .text _ | .plmn _ | .trackingArea _
  | .bitRate _ | .timer _ | .octets _ | .handoff _ _ | .ciphered _ =>
      Value.linesAfter_of_leaf (by trivial) label level

/-- A message is shown by the lines of its nodes. -/
theorem Message.lines_eq
    (level : Nat) :
    (message : Message) → message.lines level = (message.nodes level).map Node.line
  | ⟨_, _, _, _, _, _, elements, diagnostics⟩ => by
      rw [Message.lines, Message.nodes, Message.headLines_eq, elementTree_eq, List.map_append,
        List.map_append, List.map_map]
      congr 1
      apply List.map_congr_left
      intro diagnostic _
      exact String.append_assoc

theorem elementTree_eq
    (level : Nat) :
    (elements : List Element) →
      elementTree level elements = (elementNodes level elements).map Node.line
  | [] => rfl
  | ⟨_, label, span, value⟩ :: elements => by
      rw [elementTree, elementNodes, String.append_assoc, String.append_assoc,
        Value.linesAfter_eq, elementTree_eq, List.map_append]

theorem fieldTree_eq
    (level : Nat) :
    (fields : List Field) →
      fieldTree level fields = (fieldNodes level fields).map Node.line
  | [] => rfl
  | ⟨name, value⟩ :: fields => by
      rw [fieldTree, fieldNodes, Value.linesAfter_eq, fieldTree_eq, List.map_append]

theorem itemTree_eq
    (level index : Nat) :
    (items : List Value) →
      itemTree level index items = (itemNodes level index items).map Node.line
  | [] => rfl
  | value :: items => by
      have label_eq :
          s!"{indent level}[{index}]" = indent level ++ s!"[{index}]" := by
        rw [← String.append_assoc, ← String.append_assoc]
        rfl
      rw [itemTree, itemNodes, label_eq, Value.linesAfter_eq, itemTree_eq, List.map_append]

end

end LteNas
