import LteNas.Proofs.Message.Findings
import LteNas.Proofs.Message.OneLine

namespace LteNas

/-!
# Lines that tell diagnostics

The tree of a message has a line for each diagnostic at every depth.  The lines
come in another order than the diagnostics are listed in, since a message tells
its own behind those of the messages that its elements carry.
-/

open Text

/-! ## Nodes that tell -/

/-- The diagnostics that nodes tell. -/
def told (nodes : List Node) : List Diagnostic :=
  nodes.filterMap Node.finding?

theorem told_append
    (first second : List Node) :
    told (first ++ second) = told first ++ told second :=
  List.filterMap_append

theorem told_plain
    (level : Nat)
    (text : String)
    (nodes : List Node) :
    told (.plain level text :: nodes) = told nodes :=
  List.filterMap_cons_none rfl

theorem told_headNodes
    (message : Message)
    (level : Nat) :
    told (message.headNodes level) = [] := by
  rw [Message.headNodes, told_plain, told, List.filterMap_map, List.filterMap_eq_nil_iff]
  intro detail _
  rfl

theorem told_telling
    (level : Nat)
    (diagnostics : List Diagnostic) :
    told (diagnostics.map (.telling level)) = diagnostics := by
  rw [told, List.filterMap_map]
  exact List.filterMap_some

-- the recursion is that of the nodes: from a message to its values and back
mutual

theorem Value.told_nodesAfter
    (label : String)
    (level : Nat) :
    (value : Value) → (told (value.nodesAfter label level)).Perm value.nestedDiagnostics
  | .fields parts => by
      rw [Value.nodesAfter, told_plain, Value.nestedDiagnostics]
      exact told_fieldNodes (level + 1) parts
  | .list items => by
      rw [Value.nodesAfter, told_plain, Value.nestedDiagnostics]
      exact told_itemNodes (level + 1) 0 items
  | .message carried => by
      rw [Value.nodesAfter, told_plain, Value.nestedDiagnostics]
      exact Message.told_nodes (level + 1) carried
  | .number _ | .flag _ | .coded _ _ | .digits _ | .text _ | .plmn _ | .trackingArea _
  | .bitRate _ | .timer _ | .octets _ | .handoff _ _ | .ciphered _ => by
      rw [Value.nodesAfter_of_leaf (by trivial), told_plain]
      exact .refl _

/-- The nodes of a message tell its diagnostics at every depth. -/
theorem Message.told_nodes
    (level : Nat) :
    (message : Message) → (told (message.nodes level)).Perm message.allDiagnostics
  | ⟨_, _, _, _, _, _, elements, diagnostics⟩ => by
      rw [Message.nodes, told_append, told_append, told_headNodes, told_telling,
        Message.allDiagnostics, List.nil_append]
      exact List.perm_append_comm.trans ((told_elementNodes (level + 1) elements).append_left _)

theorem told_elementNodes
    (level : Nat) :
    (elements : List Element) →
      (told (elementNodes level elements)).Perm (elementDiagnostics elements)
  | [] => .refl _
  | ⟨_, label, span, value⟩ :: elements => by
      rw [elementNodes, told_append, elementDiagnostics]
      exact (Value.told_nodesAfter _ level value).append (told_elementNodes level elements)

theorem told_fieldNodes
    (level : Nat) :
    (fields : List Field) → (told (fieldNodes level fields)).Perm (fieldDiagnostics fields)
  | [] => .refl _
  | ⟨name, value⟩ :: fields => by
      rw [fieldNodes, told_append, fieldDiagnostics]
      exact (Value.told_nodesAfter name level value).append (told_fieldNodes level fields)

theorem told_itemNodes
    (level index : Nat) :
    (items : List Value) → (told (itemNodes level index items)).Perm (itemDiagnostics items)
  | [] => .refl _
  | value :: items => by
      rw [itemNodes, told_append, itemDiagnostics]
      exact (Value.told_nodesAfter _ level value).append (told_itemNodes level (index + 1) items)

end

/-! ## Lines that tell -/

/-- The lines of the tree of a message, joined. -/
def Message.tree (message : Message) (level : Nat) : String :=
  "\n".intercalate (message.lines level)

theorem indent_isUnbroken
    (level : Nat) :
    IsUnbroken (indent level) := by
  simp [indent, List.mem_replicate]

section Proper

variable {good : String → Prop} {nodes : List Node}

theorem Node.IsProper.line_isUnbroken
    (unbroken : ∀ text, good text → IsUnbroken text)
    {node : Node}
    (proper : node.IsProper good) :
    IsUnbroken node.line := by
  refine isUnbroken_append.mpr ⟨indent_isUnbroken node.level, ?_⟩
  cases proper with
  | plain holds =>
      exact unbroken _ holds
  | telling diagnosticUnbroken =>
      exact isUnbroken_append.mpr ⟨.of_characters rfl, diagnosticUnbroken⟩

/-- Nodes of one line are read back from the text that their lines are joined to. -/
theorem cut_nodes
    (unbroken : ∀ text, good text → IsUnbroken text)
    (proper : AllProper good nodes)
    (some_node : nodes ≠ []) :
    cut ("\n".intercalate (nodes.map Node.line)) = nodes.map Node.line := by
  apply cut_intercalate
  · intro line member
    obtain ⟨node, nodeMember, rfl⟩ := List.mem_map.mp member
    exact (proper node nodeMember).line_isUnbroken unbroken
  · simpa using some_node

/-- The lines that read as findings are those of the nodes that tell one. -/
theorem marked_lines
    (unmarked : ∀ text, good text → IsUnmarked text)
    (proper : AllProper good nodes) :
    ((nodes.map Node.line).filter fun line => IsMarked line).map unindented =
      (told nodes).map fun diagnostic => "! " ++ diagnostic.text := by
  induction nodes with
  | nil =>
      rfl
  | cons node nodes inductionHypothesis =>
      obtain ⟨first, others⟩ := List.forall_mem_cons.mp proper
      have behind := inductionHypothesis others
      cases first with
      | @plain level text holds =>
          have dropped : ¬ IsMarked (Node.plain level text).line := by
            rw [Node.line, indent, isMarked_append_iff]
            exact (unmarked text holds).not_isMarked
          rw [told_plain, List.map_cons, List.filter_cons_of_neg (by simpa using dropped), behind]
      | @telling level diagnostic =>
          have kept : IsMarked (Node.telling level diagnostic).line := by
            rw [Node.line, indent, isMarked_append_iff]
            exact isMarked_mark
          have line_eq :
              unindented (Node.telling level diagnostic).line = "! " ++ diagnostic.text := by
            rw [Node.line, indent, unindented_append]
            exact unindented_mark
          have told_eq :
              told (.telling level diagnostic :: nodes) = diagnostic :: told nodes :=
            List.filterMap_cons_some rfl
          rw [told_eq, List.map_cons, List.filter_cons_of_pos (by simpa using kept),
            List.map_cons, List.map_cons, line_eq, behind]

end Proper

theorem Message.nodes_ne_nil
    (message : Message)
    (level : Nat) :
    message.nodes level ≠ [] := by
  rcases message with ⟨_, _, _, _, _, _, _, _⟩
  simp [nodes, headNodes]

theorem Message.cut_tree
    {message : Message}
    (obeys : message.Obeys (.oneLine IsUnbroken))
    (level : Nat) :
    cut (message.tree level) = (message.nodes level).map Node.line := by
  rw [tree, lines_eq]
  exact cut_nodes (fun _ => id) (nodes_proper isUnbroken_isHeadwise level obeys)
    (message.nodes_ne_nil level)

/-- The names in a message have a property. -/
def Rules.named (good : String → Prop) : Rules where
  name := good
  word := fun _ => True
  text := fun _ => True
  envelope := fun _ => True

/-- The lines that read as findings tell the diagnostics, if no name looks like a finding. -/
theorem Message.marked_perm
    {message : Message}
    (obeys : message.Obeys (.oneLine IsUnbroken))
    (unmarked : message.Obeys (.named IsUnmarked))
    (level : Nat) :
    (((cut (message.tree level)).filter fun line => IsMarked line).map unindented).Perm
      (message.allDiagnostics.map fun diagnostic => "! " ++ diagnostic.text) := by
  have meet : (Rules.named IsUnmarked).Meet (.oneLine IsUnbroken) (.oneLine IsUnmarked) :=
    { name := fun named _ => named
      word := fun _ unbroken => unbroken
      text := fun _ unbroken => unbroken
      envelope := fun _ _ => trivial }
  have both : message.Obeys (.oneLine IsUnmarked) :=
    unmarked.meet meet obeys
  rw [cut_tree obeys, marked_lines (fun _ => id) (nodes_proper isUnmarked_isHeadwise level both)]
  exact (told_nodes level message).map _

/-! ## Diagnostics and lines -/

/-- The diagnostics of a message at every depth, in a list and in the tree. -/
structure Message.TellsFindings (message : Message) (level : Nat) : Prop where
  /-- The list has the diagnostic of every place once, in the order of the places. -/
  enumerates : Enumerates (Value.message message).Has message.allDiagnostics
  /-- The tree has one line for each node. -/
  lines_eq : cut (message.tree level) = (message.nodes level).map Node.line
  /-- The nodes tell what is listed. -/
  told_perm : (told (message.nodes level)).Perm message.allDiagnostics
  /-- A node that tells a diagnostic has the line of the diagnostic. -/
  telling : ∀ node ∈ message.nodes level, ∀ diagnostic, node.finding? = some diagnostic →
    node.line = indent node.level ++ ("! " ++ diagnostic.text)
  /-- No other line reads like one of these, unless a name does. -/
  marked : message.Obeys (.named IsUnmarked) →
    (((cut (message.tree level)).filter fun line => IsMarked line).map unindented).Perm
      (message.allDiagnostics.map fun diagnostic => "! " ++ diagnostic.text)

end LteNas
