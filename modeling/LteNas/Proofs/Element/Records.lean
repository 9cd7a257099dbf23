import LteNas.Proofs.Element.Locality

namespace LteNas

/-!
# Reports and runs of records

What a reader reports is local when the ranges lie among the octets of the site
and move with them.  A run of local records is local in its records, in the
window behind them, and in the fault that ended it.
-/

/-- The finding is about the value of an element. -/
def DiagnosticKind.ConcernsValue : DiagnosticKind → Prop
  | .unknownIdentity _ => True
  | .unknownTypeOfList _ => True
  | .wrongNumberOfElements _ _ => True
  | .outOfBounds _ => True
  | .malformedElement _ _ => True
  | _ => False

theorem DiagnosticKind.ConcernsValue.displace_eq
    {kind : DiagnosticKind}
    (concerns : kind.ConcernsValue)
    (move : Displacement) :
    kind.displace move = kind := by
  cases kind with
  | nestingLimit _ =>
      exact concerns.elim
  | _ =>
      rfl

theorem Fault.diagnosis_concernsValue
    (fault : Fault)
    (label : String) :
    (fault.diagnosis label).ConcernsValue := by
  cases fault <;> trivial

/-- What is reported about a value, here and further on. -/
structure Site.Reported
    (site : Site)
    (near far : List Diagnostic) :
    Prop where
  far_eq : far = near.map (Diagnostic.displace site.move)
  within : DiagnosticsWithin site.span near
  concerns : ∀ diagnostic ∈ near, diagnostic.kind.ConcernsValue

namespace Site.Reported

variable {site : Site}

theorem nil :
    site.Reported [] [] where
  far_eq := rfl
  within := by simp [DiagnosticsWithin]
  concerns := by simp

theorem append
    {near far moreNear moreFar : List Diagnostic}
    (first : site.Reported near far)
    (second : site.Reported moreNear moreFar) :
    site.Reported (near ++ moreNear) (far ++ moreFar) where
  far_eq := by rw [first.far_eq, second.far_eq, List.map_append]
  within := List.forall_mem_append.mpr ⟨first.within, second.within⟩
  concerns := List.forall_mem_append.mpr ⟨first.concerns, second.concerns⟩

/-- A finding over what is left of a window. -/
theorem remaining
    {near far : Window}
    {kind : DiagnosticKind}
    (sees : site.Sees near far)
    (concerns : kind.ConcernsValue) :
    site.Reported [⟨kind, near.remainingSpan⟩] [⟨kind, far.remainingSpan⟩] where
  far_eq := by
    rw [sees.moved.remainingSpan_eq]
    simp [Diagnostic.displace, concerns.displace_eq]
  within := by
    simpa [DiagnosticsWithin] using sees.remainingSpan_within
  concerns := by
    simpa using concerns

end Site.Reported

/-- The same good value, and reports on it. -/
structure Site.Reporting
    {α : Type}
    (site : Site)
    (good : α → Prop)
    (near far : α × List Diagnostic) :
    Prop where
  value_eq : far.1 = near.1
  holds : good near.1
  reported : site.Reported near.2 far.2

/-- Records that report one by one report together. -/
theorem Site.Reporting.together
    {α : Type}
    {site : Site}
    {good : α → Prop}
    {near far : List (α × List Diagnostic)}
    (records : List.Forall₂ (site.Reporting good) near far) :
    far.map Prod.fst = near.map Prod.fst ∧
      (∀ value ∈ near.map Prod.fst, good value) ∧
      site.Reported (near.flatMap Prod.snd) (far.flatMap Prod.snd) := by
  induction records with
  | nil =>
      exact ⟨rfl, by simp, .nil⟩
  | cons first others inductionHypothesis =>
      obtain ⟨same, hold, reported⟩ := inductionHypothesis
      refine ⟨?_, ?_, ?_⟩
      · rw [List.map_cons, List.map_cons, first.value_eq, same]
      · rw [List.map_cons, List.forall_mem_cons]
        exact ⟨first.holds, hold⟩
      · rw [List.flatMap_cons, List.flatMap_cons]
        exact first.reported.append reported

/-! ## Runs -/

/-- Two runs found related records, in front of windows seen alike, and ended alike. -/
structure RecordRun.Agree
    {α β : Type}
    (site : Site)
    (related : α → β → Prop)
    (near : RecordRun α)
    (far : RecordRun β) :
    Prop where
  records : List.Forall₂ related near.records far.records
  tail : site.Sees near.tail far.tail
  fault_eq : far.fault = near.fault

namespace RecordRun.Agree

variable {α β : Type} {site : Site} {related : α → β → Prop} {near : RecordRun α}
  {far : RecordRun β}

theorem complaint
    (agree : Agree site related near far)
    (label : String) :
    site.Reported (near.complaint label) (far.complaint label) := by
  simp only [RecordRun.complaint, agree.fault_eq]
  split
  · exact .nil
  · exact .remaining agree.tail (Fault.diagnosis_concernsValue _ _)

theorem after
    (agree : Agree site related near far) :
    site.Sees near.after far.after := by
  simp only [RecordRun.after, agree.fault_eq]
  split
  · exact agree.tail.exhaust
  · exact agree.tail

/-- Records that are the same and good are the same good list. -/
theorem same_records
    {good : α → Prop}
    {near far : RecordRun α}
    (agree : Agree site (fun value other => value = other ∧ good value) near far) :
    far.records = near.records ∧ ∀ value ∈ near.records, good value := by
  have records := agree.records
  generalize near.records = nearRecords, far.records = farRecords at records
  induction records with
  | nil =>
      simp
  | cons first others inductionHypothesis =>
      obtain ⟨rfl, holds⟩ := first
      obtain ⟨same, hold⟩ := inductionHypothesis
      exact ⟨by rw [same], List.forall_mem_cons.mpr ⟨holds, hold⟩⟩

end RecordRun.Agree

theorem Window.run_agree
    {α β : Type}
    {site : Site}
    {related : α → β → Prop}
    {first : Reader α}
    {second : Reader β}
    {near far : Window}
    (record : first.Local site related second)
    (limit : Nat)
    (sees : site.Sees near far) :
    RecordRun.Agree site related (near.run first limit) (far.run second limit) := by
  induction limit generalizing near far with
  | zero =>
      exact ⟨.nil, sees, rfl⟩
  | succ limit inductionHypothesis =>
      cases empty : near.rest.isEmpty with
      | true =>
          simp only [Window.run, Window.isEmpty, sees.moved.rest_eq, empty, if_true]
          exact ⟨.nil, sees, rfl⟩
      | false =>
          simp only [Window.run, Window.isEmpty, sees.moved.rest_eq, empty, Bool.false_eq_true, if_false]
          have agree := record near far sees
          generalize first near = nearOutcome, second far = farOutcome at agree ⊢
          cases agree with
          | error =>
              exact ⟨.nil, sees, rfl⟩
          | ok values sees =>
              have others := inductionHypothesis sees
              exact ⟨.cons values others.records, others.tail, others.fault_eq⟩

namespace Reader

variable {α : Type} {site : Site} {good : α → Prop} {record : Reader α}

theorem every_steady
    (steady : record.Steady site good) :
    (every record).Steady site (fun values => ∀ value ∈ values, good value) := by
  intro near far sees
  have agree := Window.run_agree steady near.remaining sees
  obtain ⟨same, hold⟩ := agree.same_records
  simp only [every, Window.runAll, sees.moved.remaining_eq, agree.fault_eq, same]
  split
  · exact .ok ⟨rfl, hold⟩ agree.tail
  · exact .error

theorem available_steady
    (steady : record.Steady site good)
    (limit : Nat) :
    (available limit record).Steady site (fun values => ∀ value ∈ values, good value) := by
  intro near far sees
  have agree := Window.run_agree steady limit sees
  obtain ⟨same, hold⟩ := agree.same_records
  simp only [available, same]
  exact .ok ⟨rfl, hold⟩ agree.tail

theorem upTo_local
    (steady : record.Steady site good)
    (limit : Nat)
    (label : String) :
    Local site (site.Reporting fun values => ∀ value ∈ values, good value)
      (upTo limit label record) (upTo limit label record) := by
  intro near far sees
  have agree := Window.run_agree steady limit sees
  obtain ⟨same, hold⟩ := agree.same_records
  simp only [upTo]
  exact .ok ⟨same, hold, agree.complaint label⟩ agree.after

theorem completeOnes_local
    (steady : record.Steady site good)
    (label : String) :
    Local site (site.Reporting fun values => ∀ value ∈ values, good value)
      (completeOnes label record) (completeOnes label record) := by
  intro near far sees
  simp only [completeOnes, sees.moved.remaining_eq]
  exact upTo_local steady near.remaining label near far sees

end Reader

end LteNas
