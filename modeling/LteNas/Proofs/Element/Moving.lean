import LteNas.Proofs.Element.Carrying

namespace LteNas

/-!
# Walks further on

Where a walk cuts depends on the unread octets alone.  So a walk over the same
octets further on cuts at the same places, and with regular decoders it yields
the same elements and diagnostics, displaced.
-/

/-! ## Ranges at the start of a window -/

/-- What is left of a window lies in the range of the window. -/
theorem Window.Reaches.remainingSpan_within
    {window after : Window}
    (reaches : window.Reaches after) :
    after.remainingSpan.Within window.remainingSpan where
  start_le := reaches.position_le
  ordered := after.position_le_stop
  stop_le := Nat.le_of_eq reaches.stop_eq

namespace Window

variable {move : Displacement} {near far : Window}

theorem start_within
    {count : Nat}
    (window : Window)
    (fits : count ≤ window.remaining) :
    (⟨window.position, window.position + count⟩ : Span).Within window.remainingSpan where
  start_le := Nat.le_refl _
  ordered := Nat.le_add_right _ _
  stop_le := Nat.add_le_add_left fits _

theorem Moved.start_eq
    (moved : near.Moved move far)
    (count : Nat) :
    (⟨far.position, far.position + count⟩ : Span) =
      Span.displace move ⟨near.position, near.position + count⟩ := by
  rw [Span.displace, moved.position_eq, Nat.add_right_comm]

theorem advance_within
    {count : Nat}
    (window : Window)
    (fits : count ≤ window.remaining) :
    (window.advance count).remainingSpan.Within window.remainingSpan :=
  Reaches.remainingSpan_within ⟨count, fits, rfl⟩

end Window

/-! ## Cuts -/

/-- Two outcomes of a cut agree: they take the same, in front of windows that moved. -/
inductive Framing.Agree (move : Displacement) : Framing → Framing → Prop where
  | absent :
      Agree move .absent .absent
  | missing :
      Agree move .missing .missing
  | overrun :
      Agree move .overrun .overrun
  | half {nibble : UInt8} {near far : Window}
      (moved : near.Moved move far) :
      Agree move (.half nibble near) (.half nibble far)
  | body {body near far : Window}
      (moved : near.Moved move far) :
      Agree move (.body body near) (.body (body.displace move) far)

namespace WireFormat

variable {format : WireFormat} {move : Displacement} {near far : Window}

/-- An element runs past the end when no value stands behind its header. -/
theorem frame_of_not_spelled
    {first : UInt8}
    {others : List UInt8}
    (shape : near.rest = first :: others)
    (accepted : format.accepts first = true)
    (whole : ¬ format.IsHalf)
    (short : ∀ value behind, format.Admits value.length →
      near.rest ≠ format.header value.length ++ value ++ behind) :
    format.frame near = .overrun := by
  rw [frame_of_not_isHalf shape accepted whole]
  split
  · rename_i read
    obtain ⟨value, admitted, cut, -, -⟩ :=
      (readBody_eq_ok_iff shape accepted whole).mp read
    exact (short value _ admitted cut).elim
  · rfl

/-- A value is cut off the same octets further on. -/
theorem cuts_of_spelled
    {value behind : List UInt8}
    (window : Window)
    (admitted : format.Admits value.length)
    (cut : window.rest = format.header value.length ++ value ++ behind) :
    format.Cuts window
      (.ofOctets value (window.position + format.headerLength))
      (window.advance (format.headerLength + value.length)) := by
  refine ⟨value, admitted, ?_, rfl, rfl⟩
  rw [Window.advance_rest, cut, ← format.framed_length value, List.drop_left]

theorem frame_agree
    (moved : near.Moved move far) :
    Framing.Agree move (format.frame near) (format.frame far) := by
  cases shape : near.rest with
  | nil =>
      rw [frame_of_nil shape, frame_of_nil (moved.rest_eq.trans shape)]
      split
      · exact .missing
      · exact .absent
  | cons first others =>
      have farShape := moved.rest_eq.trans shape
      cases accepted : format.accepts first with
      | false =>
          rw [frame_of_not_accepts shape accepted, frame_of_not_accepts farShape accepted]
          exact .absent
      | true =>
          by_cases half : format.IsHalf
          · rw [frame_of_isHalf shape accepted half, frame_of_isHalf farShape accepted half]
            exact .half (moved.advance _)
          · by_cases spelled : ∃ value behind,
                format.Admits value.length ∧
                  near.rest = format.header value.length ++ value ++ behind
            · obtain ⟨value, behind, admitted, cut⟩ := spelled
              have more : near.rest ≠ [] := by
                simp [shape]
              rw [frame_of_cuts more (cuts_of_spelled near admitted cut),
                frame_of_cuts (moved.rest_eq ▸ more)
                  (cuts_of_spelled far admitted (moved.rest_eq.trans cut)),
                moved.position_eq, Nat.add_right_comm, Window.ofOctets_displaced]
              exact .body (moved.advance _)
            · have short (value behind : List UInt8) (admitted : format.Admits value.length) :
                  near.rest ≠ format.header value.length ++ value ++ behind :=
                fun cut => spelled ⟨value, behind, admitted, cut⟩
              rw [frame_of_not_spelled shape accepted half short,
                frame_of_not_spelled farShape accepted half]
              · exact .overrun
              · rw [moved.rest_eq]
                exact short

end WireFormat

/-- Two walks agree in a range that the near one lies in. -/
structure Walk.Agree
    (move : Displacement)
    (span : Span)
    (near far : Walk) :
    Prop where
  elements_eq : far.elements = near.elements.map (Element.displace move)
  elements_within : ElementsWithin span near.elements
  diagnostics_eq : far.diagnostics = near.diagnostics.map (Diagnostic.displace move)
  diagnostics_within : DiagnosticsWithin span near.diagnostics

namespace Walk.Agree

variable {move : Displacement} {span : Span}

/-- Walks with the same single diagnostic of their own and no element. -/
theorem single
    {near far : Window}
    {flow farFlow : Flow}
    {window farWindow : Window}
    {kind : DiagnosticKind}
    (moved : near.Moved move far)
    (inside : near.remainingSpan.Within span)
    (kind_eq : kind.displace move = kind) :
    Walk.Agree move span
      ⟨flow, [], [⟨kind, near.remainingSpan⟩], window⟩
      ⟨farFlow, [], [⟨kind, far.remainingSpan⟩], farWindow⟩ where
  elements_eq := rfl
  elements_within := trivial
  diagnostics_eq := by
    simp [Diagnostic.displace, kind_eq, moved.remainingSpan_eq]
  diagnostics_within := by
    simpa [DiagnosticsWithin] using inside

theorem prepend
    {near far : Walk}
    {element : Element}
    {diagnostics farDiagnostics : List Diagnostic}
    (agree : Walk.Agree move span near far)
    (elementWithin : element.span.Within span)
    (valueWithin : element.value.Within element.span)
    (diagnostics_eq : farDiagnostics = diagnostics.map (Diagnostic.displace move))
    (diagnosticsWithin : DiagnosticsWithin span diagnostics) :
    Walk.Agree move span
      (near.prepend element diagnostics)
      (far.prepend (element.displace move) farDiagnostics) where
  elements_eq := by
    simp [Walk.prepend, agree.elements_eq]
  elements_within := by
    rw [elementsWithin_iff]
    refine List.forall_mem_cons.mpr ⟨⟨elementWithin, valueWithin⟩, ?_⟩
    exact elementsWithin_iff.mp agree.elements_within
  diagnostics_eq := by
    simp [Walk.prepend, agree.diagnostics_eq, diagnostics_eq]
  diagnostics_within :=
    List.forall_mem_append.mpr ⟨diagnosticsWithin, agree.diagnostics_within⟩

end Walk.Agree

section Values

variable {move : Displacement} {near far : Reading} {body : Window}

theorem Reading.Agree.value_within
    (agree : Reading.Agree move body.remainingSpan near far) :
    (ElementSpec.valueOf near body).Within body.remainingSpan := by
  have outcomes := agree.outcomes
  rw [ElementSpec.valueOf]
  generalize near.outcome = nearOutcome, far.outcome = farOutcome at outcomes ⊢
  cases outcomes with
  | error =>
      trivial
  | ok within =>
      exact within

theorem Reading.Agree.value_eq
    (agree : Reading.Agree move body.remainingSpan near far) :
    ElementSpec.valueOf far (body.displace move) =
      (ElementSpec.valueOf near body).displace move := by
  have outcomes := agree.outcomes
  rw [ElementSpec.valueOf, ElementSpec.valueOf]
  generalize near.outcome = nearOutcome, far.outcome = farOutcome at outcomes ⊢
  cases outcomes with
  | error =>
      rfl
  | ok within =>
      rfl

theorem Reading.Agree.diagnosticsOf_within
    (agree : Reading.Agree move body.remainingSpan near far)
    (entry : ElementSpec) :
    DiagnosticsWithin body.remainingSpan (entry.diagnosticsOf near body) := by
  rw [ElementSpec.diagnosticsOf]
  split
  · exact agree.within
  · refine List.forall_mem_append.mpr ⟨agree.within, ?_⟩
    simpa using body.remainingSpan_within_self

theorem Reading.Agree.diagnosticsOf_eq
    (agree : Reading.Agree move body.remainingSpan near far)
    (entry : ElementSpec) :
    entry.diagnosticsOf far (body.displace move) =
      (entry.diagnosticsOf near body).map (Diagnostic.displace move) := by
  have outcomes := agree.outcomes
  rw [ElementSpec.diagnosticsOf, ElementSpec.diagnosticsOf, agree.diagnostics_eq]
  generalize near.outcome = nearOutcome, far.outcome = farOutcome at outcomes ⊢
  cases outcomes with
  | error =>
      rename_i fault
      simp [Diagnostic.displace, Window.remainingSpan_displace,
        (fault.diagnosis_concernsValue entry.label).displace_eq]
  | ok within =>
      rfl

end Values

/-- Behind a value the scopes still agree. -/
theorem Scope.Aligned.behind
    {move : Displacement}
    {near far : Scope}
    (aligned : near.Aligned move far)
    (containerType : Option UInt8) :
    Scope.Aligned move
      { near with containerType := containerType }
      { far with containerType := containerType } where
  key_eq := aligned.key_eq
  direction_eq := aligned.direction_eq
  config_eq := aligned.config_eq
  partiallyCiphered_eq := aligned.partiallyCiphered_eq
  containerType_eq := rfl
  nested := aligned.nested

section Steps

variable {move : Displacement} {span : Span} {entry : ElementSpec}
variable {window farWindow after farAfter body : Window} {near far : Walk}

theorem Walk.Agree.prependHalf
    {nibble : UInt8}
    (behind : Walk.Agree move span near far)
    (plain : (entry.decoder.decodeNibble nibble).IsPlain)
    (moved : window.Moved move farWindow)
    (more : window.rest ≠ [])
    (inside : window.remainingSpan.Within span) :
    Walk.Agree move span
      (near.prepend
        (entry.element ⟨window.position, window.position + 1⟩
          (entry.decoder.decodeNibble nibble)) [])
      (far.prepend
        (entry.element ⟨farWindow.position, farWindow.position + 1⟩
          (entry.decoder.decodeNibble nibble)) []) := by
  have fits : 1 ≤ window.remaining :=
    List.length_pos_iff.mpr more
  have far_eq :
      entry.element ⟨farWindow.position, farWindow.position + 1⟩
          (entry.decoder.decodeNibble nibble) =
        (entry.element ⟨window.position, window.position + 1⟩
          (entry.decoder.decodeNibble nibble)).displace move := by
    rw [ElementSpec.element, ElementSpec.element, Element.displace, plain.displace_eq,
      moved.start_eq 1]
  rw [far_eq]
  apply behind.prepend ((window.start_within fits).trans inside) (plain.within _) rfl
  simp [DiagnosticsWithin]

theorem Walk.Agree.prependBody
    {reading farReading : Reading}
    (behind : Walk.Agree move span near far)
    (readings : Reading.Agree move body.remainingSpan reading farReading)
    (moved : window.Moved move farWindow)
    (afterMoved : after.Moved move farAfter)
    (elementWithin : (⟨window.position, after.position⟩ : Span).Within span)
    (bodyWithin : body.remainingSpan.Within ⟨window.position, after.position⟩) :
    Walk.Agree move span
      (near.prepend
        (entry.element ⟨window.position, after.position⟩ (ElementSpec.valueOf reading body))
        (entry.diagnosticsOf reading body))
      (far.prepend
        (entry.element ⟨farWindow.position, farAfter.position⟩
          (ElementSpec.valueOf farReading (body.displace move)))
        (entry.diagnosticsOf farReading (body.displace move))) := by
  have far_eq :
      entry.element ⟨farWindow.position, farAfter.position⟩
          (ElementSpec.valueOf farReading (body.displace move)) =
        (entry.element ⟨window.position, after.position⟩
          (ElementSpec.valueOf reading body)).displace move := by
    simp only [ElementSpec.element, Element.displace, Span.displace, readings.value_eq,
      moved.position_eq, afterMoved.position_eq]
  have valueWithin := readings.value_within.mono bodyWithin
  have diagnosticsWithin :=
    (readings.diagnosticsOf_within entry).mono (bodyWithin.trans elementWithin)
  rw [far_eq]
  exact behind.prepend elementWithin valueWithin (readings.diagnosticsOf_eq entry)
    diagnosticsWithin

end Steps

/-- A walk with regular decoders over the same octets further on. -/
theorem Catalogue.walk_agree
    {catalogue : Catalogue}
    {move : Displacement}
    {span : Span}
    {scope farScope : Scope}
    {window farWindow : Window}
    (regular : catalogue.Regular)
    (aligned : scope.Aligned move farScope)
    (moved : window.Moved move farWindow)
    (inside : window.remainingSpan.Within span) :
    Walk.Agree move span
      (Catalogue.walk scope window catalogue)
      (Catalogue.walk farScope farWindow catalogue) := by
  induction catalogue generalizing scope farScope window farWindow with
  | nil =>
      rw [Catalogue.walk, Catalogue.walk, Walk.finish, Walk.finish, Window.isEmpty,
        Window.isEmpty, moved.rest_eq]
      split
      · exact ⟨rfl, trivial, rfl, by simp [DiagnosticsWithin]⟩
      · exact .single moved inside rfl
  | cons entry entries inductionHypothesis =>
      obtain ⟨entryRegular, entriesRegular⟩ := Catalogue.regular_cons.mp regular
      have framing := entry.format.frame_agree moved
      generalize nearFraming : entry.format.frame window = nearOutcome,
        farFraming : entry.format.frame farWindow = farOutcome at framing
      rw [Catalogue.walk, Catalogue.walk, nearFraming, farFraming]
      cases framing with
      | absent =>
          exact inductionHypothesis entriesRegular aligned moved inside
      | missing =>
          exact .single moved inside rfl
      | overrun =>
          exact .single moved inside rfl
      | @half nibble after farAfter afterMoved =>
          have reaches := (WireFormat.reaches_of_frame_half nearFraming).1
          have behind :=
            inductionHypothesis entriesRegular aligned afterMoved
              (reaches.remainingSpan_within.trans inside)
          exact behind.prependHalf (entryRegular.decodeNibble_isPlain nibble) moved
            (WireFormat.rest_ne_nil_of_frame_half nearFraming) inside
      | @body body after farAfter afterMoved =>
          obtain ⟨reaches, start_le, stop_eq⟩ := WireFormat.reaches_of_frame_body nearFraming
          have readings := entryRegular.agree aligned body
          have behind :=
            inductionHypothesis entriesRegular
              (aligned.behind (entry.decoder.decodeOctets scope body).containerType) afterMoved
              (reaches.remainingSpan_within.trans inside)
          have elementWithin :
              (⟨window.position, after.position⟩ : Span).Within window.remainingSpan := by
            constructor
            · exact Nat.le_refl _
            · exact reaches.position_le
            · exact Nat.le_trans after.position_le_stop (Nat.le_of_eq reaches.stop_eq)
          have bodyWithin :
              body.remainingSpan.Within ⟨window.position, after.position⟩ := by
            constructor
            · exact start_le
            · exact body.position_le_stop
            · exact Nat.le_of_eq stop_eq
          simp only [readings.containerType_eq]
          exact behind.prependBody readings moved afterMoved (elementWithin.trans inside)
            bodyWithin

end LteNas
