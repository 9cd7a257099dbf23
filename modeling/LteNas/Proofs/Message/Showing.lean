import LteNas.Proofs.Message.Counting
import LteNas.Proofs.Message.Telling
import LteNas.Proofs.Text.Trimming

namespace LteNas

/-!
# Messages in full

A message is shown in full when its text has a line for each node of its tree.
Blank characters are trimmed from the last line alone, since every line has
something else in it.
-/

open Text

/-- Every node of a message stands on a line of its own, at its level. -/
structure Message.IsShown (message : Message) : Prop where
  /-- The lines are those of the nodes in their order, the last one trimmed. -/
  lines_eq : ∃ front last,
    message.nodes 0 = front ++ [last] ∧
      cut message.text =
        (front.map fun node => indent node.level ++ node.text) ++
          [indent last.level ++ trimmed last.text]
  /-- There are as many lines as nodes can be counted on the message. -/
  length_lines : (cut message.text).length = message.nodeCount

theorem isHeading_isHeadwise :
    IsHeadwise IsHeading where
  of_heading := id
  append := fun heading behind => heading.append behind.isUnbroken

theorem Node.IsProper.text_isVisible
    {node : Node}
    (proper : node.IsProper IsHeading) :
    IsVisible node.text := by
  cases proper with
  | plain heading =>
      exact heading.isVisible
  | @telling level diagnostic unbroken =>
      refine ⟨'!', ?_, rfl⟩
      rw [Node.telling, String.toList_append]
      exact List.mem_append_left _ List.mem_cons_self

/-- The text of nodes that begin with headings has their lines, the last one trimmed. -/
theorem cut_trimmed_nodes
    {front : List Node}
    {last : Node}
    (proper : AllProper IsHeading (front ++ [last])) :
    cut (trimmed ("\n".intercalate ((front ++ [last]).map Node.line))) =
      (front.map fun node => indent node.level ++ node.text) ++
        [indent last.level ++ trimmed last.text] := by
  have unbroken : ∀ line ∈ front.map Node.line ++ [last.line], IsUnbroken line := by
    intro line member
    rw [← List.map_singleton, ← List.map_append] at member
    obtain ⟨node, nodeMember, rfl⟩ := List.mem_map.mp member
    exact (proper node nodeMember).line_isUnbroken fun _ => IsHeading.isUnbroken
  have visible : IsVisible last.text :=
    (proper last List.mem_concat_self).text_isVisible
  have lineVisible : IsVisible last.line := by
    obtain ⟨character, member, shown⟩ := visible
    refine ⟨character, ?_, shown⟩
    rw [Node.line, String.toList_append]
    exact List.mem_append_right _ member
  rw [List.map_append, List.map_singleton, cut_trimmed unbroken lineVisible, Node.line,
    trimmed_append visible]
  rfl

/-- A message is shown in full if its names are headings and its texts are of one line. -/
theorem Message.isShown_of_obeys
    {message : Message}
    (obeys : message.Obeys (.oneLine IsHeading))
    (enveloped : message.Obeys .enveloped) :
    message.IsShown := by
  have proper := nodes_proper isHeading_isHeadwise 0 obeys
  obtain nothing | ⟨front, last, nodes_eq⟩ := (message.nodes 0).eq_nil_or_concat'
  · exact absurd nothing (message.nodes_ne_nil 0)
  · have lines_eq :
        cut message.text =
          (front.map fun node => indent node.level ++ node.text) ++
            [indent last.level ++ trimmed last.text] := by
      rw [nodes_eq] at proper
      have text_eq : message.text = trimmed ("\n".intercalate (message.lines 0)) :=
        rfl
      rw [text_eq, Message.lines_eq, nodes_eq]
      exact cut_trimmed_nodes proper
    refine ⟨⟨front, last, nodes_eq, lines_eq⟩, ?_⟩
    rw [lines_eq, ← Message.length_nodes 0 enveloped, nodes_eq]
    simp

end LteNas
