import Mathlib.Data.List.Nodup
import LteNas.Element.Decoder
import LteNas.Proofs.Message.Depth

namespace LteNas

/-!
# Looking up values

What is found in a message depends on the labels of its elements and on their
values alone.  Where the names of fields differ, each field is found by its name.
-/

/-! ## Values of a message -/

/-- The labels of elements with their values. -/
def shownElements (elements : List Element) : List (String × Value) :=
  elements.map fun element => (element.label, element.value)

theorem Message.value?_eq_lookup
    (message : Message)
    (label : String) :
    message.value? label = (shownElements message.elements).lookup label := by
  rw [value?, element?]
  induction message.elements with
  | nil =>
      rfl
  | cons element elements inductionHypothesis =>
      rw [shownElements, List.map_cons, List.lookup_cons]
      by_cases same : element.label = label
      · rw [List.find?_cons_of_pos (by simpa using same), same, beq_self_eq_true]
        rfl
      · have differs : (label == element.label) = false := by
          rw [beq_eq_false_iff_ne]
          exact Ne.symm same
        rw [List.find?_cons_of_neg (by simpa using same), differs]
        exact inductionHypothesis

/-- A value is looked up in what is shown of a message. -/
theorem Message.value?_of_shown
    {message : Message}
    {shown : List (String × Value)}
    (shown_eq : shownElements message.elements = shown)
    (label : String) :
    message.value? label = shown.lookup label := by
  rw [message.value?_eq_lookup, shown_eq]

theorem Message.allDiagnostics_eq
    (message : Message) :
    message.allDiagnostics =
      message.diagnostics ++
        (shownElements message.elements).flatMap fun shown => shown.2.nestedDiagnostics := by
  rcases message with ⟨_, _, _, _, _, _, elements, diagnostics⟩
  rw [allDiagnostics, elementDiagnostics_eq_flatMap, shownElements, List.flatMap_map]

/-- Nothing is wrong with a message if nothing is wrong with what is shown of it. -/
theorem Message.allDiagnostics_eq_nil
    {message : Message}
    {shown : List (String × Value)}
    (diagnostics_eq : message.diagnostics = [])
    (shown_eq : shownElements message.elements = shown)
    (silent : ∀ part ∈ shown, part.2.nestedDiagnostics = []) :
    message.allDiagnostics = [] := by
  rw [message.allDiagnostics_eq, diagnostics_eq, shown_eq, List.nil_append,
    List.flatMap_eq_nil_iff]
  exact silent

theorem Value.IsPlain.nestedDiagnostics_eq
    {value : Value}
    (plain : value.IsPlain) :
    value.nestedDiagnostics = [] := by
  rw [List.eq_nil_iff_forall_not_mem]
  intro diagnostic member
  obtain ⟨carried, _, _, carries, -⟩ := Value.tells_of_mem member
  exact plain.not_carries carries

/-! ## Fields of a value -/

namespace Value

variable {parts : List Field}

theorem field?_eq_some
    {part : Field}
    (member : part ∈ parts)
    (distinct : (parts.map Field.name).Nodup) :
    (Value.fields parts).field? part.name = some part.value := by
  have isFirst : parts.find? (fun other => other.name == part.name) = some part := by
    induction parts with
    | nil =>
        cases member
    | cons first others inductionHypothesis =>
        rw [List.map_cons, List.nodup_cons] at distinct
        rcases List.mem_cons.mp member with rfl | behind
        · rw [List.find?_cons_of_pos (by simp)]
        · have differs : first.name ≠ part.name := by
            intro same
            apply distinct.1
            rw [same]
            exact List.mem_map_of_mem behind
          rw [List.find?_cons_of_neg (by simpa using differs)]
          exact inductionHypothesis behind distinct.2
  rw [field?, isFirst, Option.map_some]

theorem field?_eq_none
    {name : String}
    (absent : name ∉ parts.map Field.name) :
    (Value.fields parts).field? name = none := by
  have notFound : parts.find? (fun other => other.name == name) = none := by
    rw [List.find?_eq_none]
    intro part member same
    exact absent (List.mem_map.mpr ⟨part, member, eq_of_beq same⟩)
  rw [field?, notFound, Option.map_none]

/-- A flag is found by its name, bit 8 first. -/
theorem field?_flagFields
    {names : List String}
    {place : Nat}
    {name : String}
    (octet : UInt8)
    (found : names[place]? = some name)
    (distinct : names.Nodup) :
    (Value.fields (flagFields octet names)).field? name =
      some (.flag (bit octet (8 - place))) := by
  have flag_found :
      (flagFields octet names)[place]? = some (flagField name octet (8 - place)) := by
    rw [flagFields, List.getElem?_mapIdx, found, Option.map_some]
  have names_eq : (flagFields octet names).map Field.name = names := by
    apply List.ext_getElem?
    intro index
    rw [List.getElem?_map, flagFields, List.getElem?_mapIdx, Option.map_map]
    exact Option.map_id'
  rw [← names_eq] at distinct
  exact field?_eq_some (List.mem_of_getElem? flag_found) distinct

end Value

end LteNas
