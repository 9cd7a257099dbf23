import LteNas.Proofs.Element.Regular

namespace LteNas

/-!
# Decoders that enter messages

A decoder either enters the message in its octets, if that may still be nested,
or makes of the octets what nesting has no part in.  Nothing else is needed of
decoders to follow messages from level to level.
-/

/-- The scope with other messages nested in it, under another limit. -/
def Scope.nesting
    (scope : Scope)
    (limit : Nat)
    (nested : Carriage → Window → Option (Message × Window)) :
    Scope :=
  { scope with
    config := { scope.config with maxNestingDepth := limit }
    nested }

theorem DiagnosticKind.ConcernsValue.ne_nestingLimit
    {kind : DiagnosticKind}
    {limit : Nat}
    (concerns : kind.ConcernsValue) :
    kind ≠ .nestingLimit limit := by
  rintro rfl
  exact concerns

/-- Nothing is carried by the value, and no diagnostic is about a limit. -/
structure Reading.IsFlat (reading : Reading) : Prop where
  carriesNone {value : Value} {after : Window} {carried : Message} :
    reading.outcome = .ok (value, after) → ¬ value.Carries carried
  meetsNoLimit {diagnostic : Diagnostic} {limit : Nat} :
    diagnostic ∈ reading.diagnostics → diagnostic.kind ≠ .nestingLimit limit

namespace Reading.IsFlat

variable {reading : Reading}

/-- A plain value, and diagnostics that concern no limit. -/
theorem of_plain
    {value : Value}
    {after : Window}
    {containerType : Option UInt8}
    (plain : value.IsPlain) :
    Reading.IsFlat ⟨.ok (value, after), [], containerType⟩ where
  carriesNone := by
    rintro _ _ carried ⟨⟩
    exact plain.not_carries
  meetsNoLimit := by
    simp

theorem valueOf_not_carries
    {body : Window}
    {carried : Message}
    (flat : reading.IsFlat) :
    ¬ (ElementSpec.valueOf reading body).Carries carried := by
  rw [ElementSpec.valueOf]
  split
  · rename_i outcome_eq
    exact flat.carriesNone outcome_eq
  · rintro ⟨⟩

theorem diagnosticsOf_meetsNoLimit
    {body : Window}
    {diagnostic : Diagnostic}
    {limit : Nat}
    (flat : reading.IsFlat)
    (entry : ElementSpec)
    (member : diagnostic ∈ entry.diagnosticsOf reading body) :
    diagnostic.kind ≠ .nestingLimit limit := by
  rw [ElementSpec.diagnosticsOf] at member
  split at member
  · exact flat.meetsNoLimit member
  · rename_i fault _
    rcases List.mem_append.mp member with reported | own
    · exact flat.meetsNoLimit reported
    · rw [List.mem_singleton.mp own]
      exact (fault.diagnosis_concernsValue entry.label).ne_nestingLimit

end Reading.IsFlat

/-- A scope in which every message may be entered, and is empty. -/
def Scope.unlimited : Scope where
  config := .standard
  key := none
  direction := .unknown
  depth := 0
  partiallyCiphered := false
  containerType := none
  nested := fun _ window => some (.empty, window)

/-- Where every message may be entered, the decoder enters one. -/
def OctetDecoder.entersMessages (decode : OctetDecoder) : Bool :=
  match (decode .unlimited (.ofOctets [] 0)).outcome with
  | .ok (.message _, _) => true
  | _ => false

/-- What a decoder does with octets in a scope, whatever is nested in it. -/
inductive OctetDecoder.Handles
    (decode : OctetDecoder)
    (scope : Scope)
    (body : Window) :
    Prop where
  /-- It comes to one reading. -/
  | reads (reading : Reading)
      (flat : reading.IsFlat)
      (decode_eq : ∀ limit nested, decode (scope.nesting limit nested) body = reading)
  /-- It enters the message in the octets. -/
  | enters (carriage : Carriage)
      (enters : OctetDecoder.entersMessages decode = true)
      (decode_eq : ∀ limit nested,
        decode (scope.nesting limit nested) body =
          ElementValue.carriedMessage carriage (scope.nesting limit nested) body)

section Decoders

variable {scope : Scope} {body : Window}

theorem ElementValue.carriedMessage_of_none
    {carriage : Carriage}
    (nested_eq : scope.nested carriage body = none) :
    carriedMessage carriage scope body =
      ⟨.ok (.octets body.rest, body.exhaust),
        [⟨.nestingLimit scope.config.maxNestingDepth, body.remainingSpan⟩],
        scope.containerType⟩ := by
  rw [carriedMessage, nested_eq]

theorem ElementValue.carriedMessage_of_some
    {carriage : Carriage}
    {message : Message}
    {after : Window}
    (nested_eq : scope.nested carriage body = some (message, after)) :
    carriedMessage carriage scope body =
      ⟨.ok (.message message, after), [], scope.containerType⟩ := by
  rw [carriedMessage, nested_eq]

/-- A decoder that looks at nothing but the octets comes to one reading. -/
theorem Reader.reporting_handles
    {reader : Reader (Value × List Diagnostic)}
    (isLocal : ∀ site : Site, reader.Local site (site.Reporting Value.IsPlain) reader) :
    OctetDecoder.Handles reader.reporting scope body := by
  refine .reads (reader.reporting scope body) ?_ fun limit nested => rfl
  have agree := isLocal _ body body (Site.sees_self body)
  rw [Reader.reporting]
  generalize reader body = outcome at agree ⊢
  cases agree with
  | error =>
      exact ⟨by simp, by simp⟩
  | ok reporting _ =>
      refine ⟨?_, fun member => (reporting.reported.concerns _ member).ne_nestingLimit⟩
      rintro _ _ carried ⟨⟩
      exact reporting.holds.not_carries

open ElementValue in
theorem OctetDecoder.Regular.handles
    {decode : OctetDecoder}
    (regular : OctetDecoder.Regular decode) :
    OctetDecoder.Handles decode scope body := by
  induction regular with
  | reading isLocal =>
      exact Reader.reporting_handles isLocal
  | carried carriage =>
      exact .enters carriage rfl fun limit nested => rfl
  | session =>
      by_cases ciphered : (scope.partiallyCiphered && !body.peek?.any isClearStart) = true
      · refine .reads
          ⟨.ok (.ciphered body.rest, body.exhaust), [⟨.decipherFailed, body.remainingSpan⟩],
            scope.containerType⟩ ⟨?_, ?_⟩ fun limit nested => if_pos ciphered
        · rintro _ _ carried ⟨⟩ ⟨⟩
        · intro diagnostic limit member
          rw [List.mem_singleton.mp member]
          simp
      · exact .enters .bare rfl fun limit nested => if_neg ciphered
  | containerType =>
      refine .reads (genericContainerType scope body) ?_ fun limit nested => rfl
      rw [genericContainerType]
      split
      · exact ⟨by simp, by simp⟩
      · exact .of_plain trivial
  | container =>
      refine .reads (genericContainer scope body) ?_ fun limit nested => rfl
      rw [genericContainer]
      split
      · exact .of_plain trivial
      · exact .of_plain trivial
  | userData =>
      refine .reads (ElementValue.userData scope body) ?_ fun limit nested => rfl
      rw [ElementValue.userData]
      split
      · exact .of_plain trivial
      · exact .of_plain trivial

/-- A regular decoder enters the message in its octets, or comes to one reading. -/
theorem Decoder.Regular.handles
    {decoder : Decoder}
    (regular : decoder.Regular) :
    OctetDecoder.Handles decoder.decodeOctets scope body := by
  cases decoder with
  | nibble decode =>
      have steady (site : Site) :
          Reader.Steady site Value.IsPlain (do return decode (lowNibble (← Reader.octet))) :=
        Reader.octet_steady.bind fun octet _ => .pure ⟨rfl, regular _⟩
      exact OctetDecoder.Regular.handles (.of_steady steady)
  | octets decode =>
      exact OctetDecoder.Regular.handles regular

end Decoders

end LteNas
