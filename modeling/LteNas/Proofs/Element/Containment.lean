import LteNas.Decode
import LteNas.Proofs.Element.Replacing

namespace LteNas

/-!
# What decoders have no say in

Octets are cut into elements by labels and formats alone.  The outline of a walk
is what is left of it without values and findings; it is computed here from what
the entries say of the wire, without any decoder, so that catalogues which say
the same have walks of one outline.  A decoder that fails costs its element the
value and adds a finding, and nothing in front of it changes.
-/

/-- What an entry says of the wire: its label, and the format that tells its tag and its length. -/
def ElementSpec.framing (entry : ElementSpec) : String × WireFormat :=
  (entry.label, entry.format)

/-- An element without its value. -/
structure Element.Outline where
  label : String
  tag : Option UInt8
  span : Span
  deriving Repr, DecidableEq

def Element.outline (element : Element) : Element.Outline :=
  ⟨element.label, element.tag, element.span⟩

/-- A walk without what its decoders made of the octets. -/
structure Walk.Outline where
  flow : Flow
  elements : List Element.Outline
  window : Window
  deriving Repr, DecidableEq

def Walk.outline (walk : Walk) : Walk.Outline :=
  ⟨walk.flow, walk.elements.map Element.outline, walk.window⟩

/-- An outline with an element in front. -/
def Walk.Outline.prepend (walk : Walk.Outline) (element : Element.Outline) : Walk.Outline :=
  { walk with elements := element :: walk.elements }

/-- Cut octets into elements by what entries say of the wire. -/
def Walk.Outline.ofFraming (window : Window) : List (String × WireFormat) → Walk.Outline
  | [] =>
      ⟨.done, [], window.exhaust⟩
  | (label, format) :: entries =>
      match format.frame window with
      | .absent =>
          ofFraming window entries
      | .missing =>
          ⟨.stopped, [], window⟩
      | .overrun =>
          ⟨.stopped, [], window.exhaust⟩
      | .half _ after =>
          (ofFraming after entries).prepend
            ⟨label, format.tag?, ⟨window.position, window.position + 1⟩⟩
      | .body _ after =>
          (ofFraming after entries).prepend
            ⟨label, format.tag?, ⟨window.position, after.position⟩⟩

theorem Walk.finish_outline
    (window : Window) :
    (Walk.finish window).outline = ⟨.done, [], window.exhaust⟩ := by
  obtain ⟨ending, fits, finish_eq⟩ := Walk.finish_eq window
  rw [finish_eq]
  cases ending with
  | complete | extraneous =>
      rfl
  | missing label =>
      obtain ⟨⟨entry, member, -⟩, -⟩ := fits
      cases member
  | overrun label =>
      obtain ⟨⟨entry, member, -⟩, -⟩ := fits
      cases member

/-- The outline of a walk is found without scope and decoders. -/
theorem Catalogue.walk_outline
    (catalogue : Catalogue)
    (scope : Scope)
    (window : Window) :
    (Catalogue.walk scope window catalogue).outline =
      .ofFraming window (catalogue.map ElementSpec.framing) := by
  induction catalogue generalizing scope window with
  | nil =>
      exact Walk.finish_outline window
  | cons entry entries inductionHypothesis =>
      rw [List.map_cons, ElementSpec.framing, Walk.Outline.ofFraming, Catalogue.walk]
      cases framing : entry.format.frame window with
      | absent =>
          exact inductionHypothesis scope window
      | missing | overrun =>
          rfl
      | half nibble after =>
          dsimp only
          rw [← inductionHypothesis scope after]
          rfl
      | body body after =>
          -- the decoder leaves a scope of its own to the entries behind
          dsimp only
          rw [← inductionHypothesis (entry.scopeBehind scope body) after]
          rfl

/-! ## Decoders that fail -/

namespace Catalogue.Passes

variable {catalogue before behind : Catalogue} {scope here : Scope} {entry : ElementSpec}
  {pieces : List Piece} {window cursor body after : Window} {fault : Fault}

/-- The value of an element that is passed is made of octets of the window, up to its end. -/
theorem body_eq
    (passes : catalogue.Passes scope window before entry behind pieces here cursor body after) :
    body = window.portion body.remainingSpan ∧ body.stop = after.position := by
  obtain ⟨-, start_le, stop_eq⟩ := WireFormat.reaches_of_frame_body passes.framing
  refine ⟨?_, stop_eq⟩
  rw [← passes.visits.reaches.portion_eq start_le]
  exact WireFormat.portion_of_frame_body passes.framing

/-- Where the decoder fails, the octets are kept, and its fault is the last of its findings. -/
theorem walk_of_failed
    (passes : catalogue.Passes scope window before entry behind pieces here cursor body after)
    (failed : (entry.decoder.decodeOctets here body).outcome = .error fault) :
    let rest := Catalogue.walk (entry.scopeBehind here body) after behind
    let walk := Catalogue.walk scope window catalogue
    walk.elements =
        pieces.map Piece.element ++
          entry.element ⟨cursor.position, after.position⟩ (.octets body.rest) :: rest.elements ∧
      walk.diagnostics =
        pieces.flatMap Piece.diagnostics ++
          ((entry.decoder.decodeOctets here body).diagnostics ++
            ⟨fault.diagnosis entry.label, body.remainingSpan⟩ :: rest.diagnostics) := by
  intro rest walk
  have value_eq :
      ElementSpec.valueOf (entry.decoder.decodeOctets here body) body = .octets body.rest := by
    rw [ElementSpec.valueOf, failed]
  have diagnostics_eq :
      entry.diagnosticsOf (entry.decoder.decodeOctets here body) body =
        (entry.decoder.decodeOctets here body).diagnostics ++
          [⟨fault.diagnosis entry.label, body.remainingSpan⟩] := by
    rw [ElementSpec.diagnosticsOf, failed]
  have walk_eq := passes.walk_eq
  dsimp only at walk_eq
  rw [value_eq, diagnostics_eq] at walk_eq
  constructor
  · show (Catalogue.walk scope window catalogue).elements = _
    rw [walk_eq]
    rfl
  · show (Catalogue.walk scope window catalogue).diagnostics = _
    rw [walk_eq]
    simp [Walk.behind, Walk.prepend, rest]

end Catalogue.Passes

/--
Catalogues that say the same of the wire cut the same elements, come to the same
flow and consume the same octets, whatever their decoders and scopes.  A decoder
that fails leaves its element with the octets of its value.  Behind what it
reported itself stands one finding over these octets; what was found in front of
it is as it was, and the walk goes on behind the element.
-/
theorem Catalogue.walk_containsDecoders
    (first second : Catalogue)
    (sameFraming : second.map ElementSpec.framing = first.map ElementSpec.framing)
    (scope otherScope : Scope)
    (window : Window) :
    let walk := Catalogue.walk scope window first
    let other := Catalogue.walk otherScope window second
    (other.elements.map Element.outline = walk.elements.map Element.outline ∧
        other.flow = walk.flow ∧
        other.window = walk.window) ∧
      ∀ before entry behind pieces here cursor body after fault,
        first.Passes scope window before entry behind pieces here cursor body after →
        (entry.decoder.decodeOctets here body).outcome = .error fault →
          let rest := Catalogue.walk (entry.scopeBehind here body) after behind
          let kind : DiagnosticKind :=
            match fault with
            | .invalidValue defect => .malformedElement entry.label defect.message
            | .tooShort _ => .outOfBounds entry.label
            | .lengthMismatch _ _ => .outOfBounds entry.label
          body = window.portion body.remainingSpan ∧
            walk.elements =
              pieces.map Piece.element ++
                ⟨entry.format.tag?, entry.label, ⟨cursor.position, body.stop⟩,
                  .octets body.rest⟩ :: rest.elements ∧
            walk.diagnostics =
              pieces.flatMap Piece.diagnostics ++
                ((entry.decoder.decodeOctets here body).diagnostics ++
                  ⟨kind, body.remainingSpan⟩ :: rest.diagnostics) := by
  intro walk other
  constructor
  · have outline_eq : other.outline = walk.outline := by
      rw [Catalogue.walk_outline, Catalogue.walk_outline, sameFraming]
    obtain ⟨flow_eq, elements_eq, window_eq⟩ := Walk.Outline.mk.inj outline_eq
    exact ⟨elements_eq, flow_eq, window_eq⟩
  · intro before entry behind pieces here cursor body after fault passes failed rest kind
    obtain ⟨body_eq, stop_eq⟩ := passes.body_eq
    obtain ⟨elements_eq, diagnostics_eq⟩ := passes.walk_of_failed failed
    have kind_eq : kind = fault.diagnosis entry.label := by
      cases fault <;> rfl
    refine ⟨body_eq, ?_, ?_⟩
    · rw [stop_eq]
      exact elements_eq
    · rw [kind_eq]
      exact diagnostics_eq

/--
A quality of service of two octets is malformed.  The octets are kept, the cause
behind them is read, and other decoders would be given the same octets.
-/
theorem Catalogue.walk_containsDecoders_quality :
    let quality : ElementSpec := .sized "EPS QoS" ElementValue.quality
    let cause : ElementSpec := .fixed "ESM cause" 1 ElementValue.sessionCause
    let first : Catalogue := [quality, cause]
    let second : Catalogue :=
      [ .sized "EPS QoS" ElementValue.accessPointName,
        .fixed "ESM cause" 1 ElementValue.uninterpreted ]
    let scope := (Setup.ofConfig .standard .uplink).scope 0
    let window := Window.ofOctets [0x02, 0x05, 0x07, 0x1A] 0
    second.map ElementSpec.framing = first.map ElementSpec.framing ∧
      (Catalogue.walk scope window second).elements.map Element.outline =
        (Catalogue.walk scope window first).elements.map Element.outline ∧
      (Catalogue.walk scope window first).elements =
        [ ⟨none, "EPS QoS", ⟨0, 3⟩, .octets [0x05, 0x07]⟩,
          ⟨none, "ESM cause", ⟨3, 4⟩, .coded 26 "Insufficient resources"⟩ ] ∧
      (Catalogue.walk scope window first).diagnostics =
        [ ⟨.malformedElement "EPS QoS"
            "EPS QoS of 2 octets, expected 1, 5, 9 or 13", ⟨1, 3⟩⟩ ] := by
  intro quality cause first second scope window
  have sameFraming : second.map ElementSpec.framing = first.map ElementSpec.framing := by
    rfl
  have passes :
      first.Passes scope window [] quality [cause] [] scope window
        (.ofOctets [0x05, 0x07] 1) ⟨0, 3, [0x1A]⟩ :=
    ⟨rfl, .nil, rfl⟩
  obtain ⟨⟨outline_eq, -, -⟩, contains⟩ :=
    Catalogue.walk_containsDecoders first second sameFraming scope scope window
  obtain ⟨-, elements_eq, diagnostics_eq⟩ :=
    contains _ _ _ _ _ _ _ _ (.invalidValue (.qualityLength 2)) passes rfl
  exact ⟨sameFraming, outline_eq, elements_eq, diagnostics_eq⟩

end LteNas
