import LteNas.Proofs.Message.Depth

namespace LteNas

/-!
# Where the diagnostics of a message stand

A diagnostic is found at the end of a path of indices, through elements, fields
and list items.  All diagnostics of a message are listed once each, in the order
of their paths: a message comes before what it carries.
-/

/-! ## The parts of values -/

/-- The values directly inside a value: of its elements, its fields or its items. -/
def Value.parts : Value → List Value
  | .message carried => carried.elements.map Element.value
  | .fields members => members.map Field.value
  | .list items => items
  | _ => []

/-- The diagnostics that a value has itself. -/
def Value.ownDiagnostics : Value → List Diagnostic
  | .message carried => carried.diagnostics
  | _ => []

theorem Value.nestedDiagnostics_eq
    (value : Value) :
    value.nestedDiagnostics =
      value.ownDiagnostics ++ value.parts.flatMap Value.nestedDiagnostics := by
  cases value with
  | message carried =>
      rcases carried with ⟨_, _, _, _, _, _, elements, diagnostics⟩
      rw [nestedDiagnostics, Message.allDiagnostics, elementDiagnostics_eq_flatMap, parts,
        List.flatMap_map]
      rfl
  | fields members =>
      rw [nestedDiagnostics, fieldDiagnostics_eq_flatMap, parts, List.flatMap_map]
      rfl
  | list items =>
      rw [nestedDiagnostics, itemDiagnostics_eq_flatMap]
      rfl
  | _ =>
      rfl

section Induction

/-- The property of values passes from the parts of a value to the value. -/
def Value.Passes (property : Value → Prop) : Prop :=
  ∀ value : Value, (∀ part ∈ value.parts, property part) → property value

variable {property : Value → Prop}

mutual

/-- A property that values have if their parts have it holds of every value. -/
theorem Value.Passes.holds
    (passes : Value.Passes property) :
    (value : Value) → property value
  | .message ⟨_, _, _, _, _, _, elements, _⟩ => passes _ (passes.elements elements)
  | .fields members => passes _ (passes.fields members)
  | .list items => passes _ (passes.items items)
  | .number _ | .flag _ | .coded _ _ | .digits _ | .text _ | .plmn _ | .trackingArea _
  | .bitRate _ | .timer _ | .octets _ | .handoff _ _ | .ciphered _ => passes _ (by simp [Value.parts])

theorem Value.Passes.elements
    (passes : Value.Passes property) :
    (elements : List Element) → ∀ part ∈ elements.map Element.value, property part
  | [] => by simp
  | ⟨_, _, _, value⟩ :: elements =>
      List.forall_mem_cons.mpr ⟨passes.holds value, passes.elements elements⟩

theorem Value.Passes.fields
    (passes : Value.Passes property) :
    (fields : List Field) → ∀ part ∈ fields.map Field.value, property part
  | [] => by simp
  | ⟨_, value⟩ :: fields =>
      List.forall_mem_cons.mpr ⟨passes.holds value, passes.fields fields⟩

theorem Value.Passes.items
    (passes : Value.Passes property) :
    (items : List Value) → ∀ part ∈ items, property part
  | [] => by simp
  | value :: items =>
      List.forall_mem_cons.mpr ⟨passes.holds value, passes.items items⟩

end

end Induction

/-! ## Places of diagnostics -/

/-- A diagnostic and the place where it stands. -/
structure Finding where
  /-- The indices on the way to the message that has the diagnostic. -/
  path : List Nat
  /-- The index among the diagnostics of that message. -/
  index : Nat
  diagnostic : Diagnostic
  deriving Repr, DecidableEq

/-- A path of indices, one for each part on the way, leads from a value to a message. -/
inductive Value.LeadsTo : Value → List Nat → Message → Prop where
  | message {carried : Message} :
      (Value.message carried).LeadsTo [] carried
  | part {value part : Value} {inner : Message} {index : Nat} {path : List Nat}
      (found : value.parts[index]? = some part)
      (leads : part.LeadsTo path inner) :
      value.LeadsTo (index :: path) inner

/-- The finding stands in the value. -/
def Value.Has (value : Value) (finding : Finding) : Prop :=
  ∃ inner : Message,
    value.LeadsTo finding.path inner ∧
      inner.diagnostics[finding.index]? = some finding.diagnostic

namespace Finding

/-- The one finding stands on a path in front of the other, or earlier in the same message. -/
def Before (first second : Finding) : Prop :=
  first.path < second.path ∨ first.path = second.path ∧ first.index < second.index

/-- The finding of a part in the value that has the part at an index. -/
def below (index : Nat) (finding : Finding) : Finding :=
  { finding with path := index :: finding.path }

theorem Before.below
    {first second : Finding}
    (before : first.Before second)
    (index : Nat) :
    (first.below index).Before (second.below index) := by
  rcases before with earlier | ⟨same, earlier⟩
  · exact .inl (List.cons_lt_cons_iff.mpr (.inr ⟨rfl, earlier⟩))
  · exact .inr ⟨congrArg (index :: ·) same, earlier⟩

end Finding

/-! ## Lists of findings -/

/-- The diagnostics are those of all findings of a kind, once each and in order. -/
def Enumerates (stands : Finding → Prop) (diagnostics : List Diagnostic) : Prop :=
  ∃ findings : List Finding,
    findings.map Finding.diagnostic = diagnostics ∧
      findings.Pairwise Finding.Before ∧
        ∀ finding, finding ∈ findings ↔ stands finding

/-- The finding is that of the part of a value at an index from `start` on. -/
def StandsBelow (start : Nat) (parts : List Value) (finding : Finding) : Prop :=
  ∃ index part inner,
    parts[index]? = some part ∧ Value.Has part inner ∧ finding = inner.below (start + index)

section Enumerating

variable {stands others : Finding → Prop} {diagnostics : List Diagnostic}

theorem Enumerates.congr
    (enumerates : Enumerates stands diagnostics)
    (same : ∀ finding, stands finding ↔ others finding) :
    Enumerates others diagnostics := by
  obtain ⟨findings, diagnostics_eq, ordered, complete⟩ := enumerates
  exact ⟨findings, diagnostics_eq, ordered, fun finding => (complete finding).trans (same finding)⟩

theorem Enumerates.append
    {behind : List Diagnostic}
    (front : Enumerates stands diagnostics)
    (back : Enumerates others behind)
    (ordered : ∀ first second, stands first → others second → first.Before second) :
    Enumerates (fun finding => stands finding ∨ others finding) (diagnostics ++ behind) := by
  obtain ⟨findings, rfl, frontOrdered, frontComplete⟩ := front
  obtain ⟨otherFindings, rfl, backOrdered, backComplete⟩ := back
  refine ⟨findings ++ otherFindings, List.map_append, ?_, ?_⟩
  · refine List.pairwise_append.mpr ⟨frontOrdered, backOrdered, ?_⟩
    intro first firstMember second secondMember
    exact ordered first second ((frontComplete first).mp firstMember)
      ((backComplete second).mp secondMember)
  · intro finding
    rw [List.mem_append, frontComplete, backComplete]

theorem Enumerates.below
    (enumerates : Enumerates stands diagnostics)
    (index : Nat) :
    Enumerates (fun finding => ∃ inner, stands inner ∧ finding = inner.below index)
      diagnostics := by
  obtain ⟨findings, rfl, ordered, complete⟩ := enumerates
  refine ⟨findings.map (Finding.below index), by simp [Finding.below, Function.comp_def], ?_, ?_⟩
  · exact List.pairwise_map.mpr (ordered.imp fun before => before.below index)
  · intro finding
    simp only [List.mem_map, complete]
    exact exists_congr fun inner => and_congr_right fun _ => eq_comm

/-- The diagnostics of a message itself, none of which is on a path. -/
theorem enumerates_own
    (diagnostics : List Diagnostic) :
    Enumerates
      (fun finding => finding.path = [] ∧ diagnostics[finding.index]? = some finding.diagnostic)
      diagnostics := by
  refine ⟨diagnostics.mapIdx fun index diagnostic => ⟨[], index, diagnostic⟩, ?_, ?_, ?_⟩
  · apply List.ext_getElem?
    simp [Function.comp_def]
  · rw [List.pairwise_iff_getElem]
    intro first second _ _ earlier
    simp only [List.getElem_mapIdx]
    exact .inr ⟨rfl, earlier⟩
  · rintro ⟨path, index, diagnostic⟩
    simp only [List.mem_mapIdx, List.getElem?_eq_some_iff, Finding.mk.injEq]
    constructor
    · rintro ⟨_, inside, rfl, rfl, rfl⟩
      exact ⟨rfl, inside, rfl⟩
    · rintro ⟨rfl, inside, rfl⟩
      exact ⟨index, inside, rfl, rfl, rfl⟩

/-- The findings of parts in a row, each below its index. -/
theorem enumerates_parts
    (parts : List Value)
    (enumerated : ∀ part ∈ parts, Enumerates part.Has part.nestedDiagnostics)
    (start : Nat) :
    Enumerates (StandsBelow start parts) (parts.flatMap Value.nestedDiagnostics) := by
  induction parts generalizing start with
  | nil =>
      refine ⟨[], rfl, .nil, fun finding => ?_⟩
      simp [StandsBelow]
  | cons part parts inductionHypothesis =>
      obtain ⟨first, rest⟩ := List.forall_mem_cons.mp enumerated
      have behind := inductionHypothesis rest (start + 1)
      rw [List.flatMap_cons]
      refine ((first.below start).append behind ?_).congr ?_
      · rintro _ _ ⟨inner, -, rfl⟩ ⟨index, _, other, -, -, rfl⟩
        exact .inl (List.cons_lt_cons_iff.mpr (.inl (by omega)))
      · intro finding
        constructor
        · rintro (⟨inner, has, rfl⟩ | ⟨index, other, inner, found, has, rfl⟩)
          · exact ⟨0, part, inner, rfl, has, rfl⟩
          · exact ⟨index + 1, other, inner, found, has, by rw [Nat.add_right_comm, Nat.add_assoc]⟩
        · rintro ⟨index, other, inner, found, has, rfl⟩
          cases index with
          | zero =>
              cases found
              exact .inl ⟨inner, has, rfl⟩
          | succ index =>
              refine .inr ⟨index, other, inner, found, has, ?_⟩
              rw [Nat.add_right_comm, Nat.add_assoc]

end Enumerating

/-! ## All diagnostics of a value -/

theorem Value.has_iff
    {value : Value}
    {finding : Finding} :
    value.Has finding ↔
      finding.path = [] ∧ value.ownDiagnostics[finding.index]? = some finding.diagnostic ∨
        StandsBelow 0 value.parts finding := by
  constructor
  · rintro ⟨inner, leads, reported⟩
    rcases finding with ⟨path, place, diagnostic⟩
    cases leads with
    | message =>
        exact .inl ⟨rfl, reported⟩
    | @part _ part _ index path found leads =>
        refine .inr ⟨index, part, ⟨path, place, diagnostic⟩, found, ⟨inner, leads, reported⟩, ?_⟩
        rw [Nat.zero_add]
        rfl
  · rintro (⟨nowhere, reported⟩ | ⟨index, part, below, found, ⟨inner, leads, reported⟩, rfl⟩)
    · rcases finding with ⟨path, place, diagnostic⟩
      cases nowhere
      cases value with
      | message carried =>
          exact ⟨carried, .message, reported⟩
      | _ =>
          simp [ownDiagnostics] at reported
    · rw [Nat.zero_add]
      exact ⟨inner, .part found leads, reported⟩

/-- The diagnostics at every depth are listed once each, in the order of their places. -/
theorem Value.enumerates
    (value : Value) :
    Enumerates value.Has value.nestedDiagnostics := by
  revert value
  apply Value.Passes.holds
  intro value enumerated
  rw [nestedDiagnostics_eq]
  have own := enumerates_own value.ownDiagnostics
  have behind := enumerates_parts value.parts enumerated 0
  refine (own.append behind ?_).congr fun finding => has_iff.symm
  rintro first _ ⟨nowhere, -⟩ ⟨index, _, inner, -, -, rfl⟩
  left
  rw [nowhere]
  exact List.nil_lt_cons _ _

end LteNas
