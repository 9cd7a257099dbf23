import LteNas.Proofs.Element.Carrying
import LteNas.Proofs.Element.Entering
import LteNas.Proofs.Element.Visit

namespace LteNas

/-!
# Where a walk finds messages

A message is entered from the value of a container, and from nowhere else.  The
value stands among the octets that are walked, behind a tag, if there is one,
and two octets of length.
-/

/-! ## Portions of windows -/

/-- The unread octets of a window in a range. -/
def Window.portion (window : Window) (span : Span) : Window :=
  .ofOctets ((window.rest.drop (span.start - window.position)).take (span.stop - span.start))
    span.start

namespace Window

variable {window after : Window} {span : Span}

theorem portion_remaining
    (start_le : window.position ≤ span.start)
    (stop_le : span.stop ≤ window.stop) :
    (window.portion span).remaining = span.stop - span.start := by
  simp only [stop, remaining] at stop_le
  simp only [portion, remaining, ofOctets_rest, List.length_take, List.length_drop]
  omega

/-- What is left of a window has the same portions. -/
theorem Reaches.portion_eq
    (reaches : window.Reaches after)
    (start_le : after.position ≤ span.start) :
    after.portion span = window.portion span := by
  obtain ⟨count, fits, rfl⟩ := reaches
  have dropped : count + (span.start - (window.position + count)) = span.start - window.position := by
    rw [advance_position] at start_le
    omega
  simp only [portion, advance_rest, advance_position, List.drop_drop, dropped]

end Window

namespace WireFormat

variable {format : WireFormat} {window body after : Window}

/-- The value of an element stands behind its header, up to the end of the element. -/
theorem remainingSpan_of_frame_body
    (framing : format.frame window = .body body after) :
    body.remainingSpan = ⟨window.position + format.headerLength, after.position⟩ := by
  have tells := format.tells_frame window
  rw [framing] at tells
  obtain ⟨-, value, -, -, rfl, rfl⟩ := tells
  simp [Window.remainingSpan, Window.stop, Window.remaining, Nat.add_assoc]

/-- The value of an element is a portion of the window that the element is cut off from. -/
theorem portion_of_frame_body
    (framing : format.frame window = .body body after) :
    body = window.portion body.remainingSpan := by
  have tells := format.tells_frame window
  rw [framing] at tells
  obtain ⟨-, value, -, shape, rfl, -⟩ := tells
  have behind : window.rest.drop format.headerLength = value ++ after.rest := by
    rw [shape, List.append_assoc, List.drop_left' (header_length _ _)]
  simp [Window.portion, Window.remainingSpan, Window.stop, Window.remaining, behind]

end WireFormat

/-! ## Containers -/

/-- The elements that carry messages, as they are labelled and stand on the wire. -/
def containers : List (String × WireFormat) :=
  [ ("ESM message container", .sizedExtended),
    ("ESM message container", .taggedSizedExtended 0x78),
    ("Replayed NAS message container", .taggedSizedExtended 0x79) ]

/-- Elements of the entry carry messages. -/
def ElementSpec.IsContainer (entry : ElementSpec) : Prop :=
  (entry.label, entry.format) ∈ containers

instance (entry : ElementSpec) : Decidable entry.IsContainer :=
  inferInstanceAs (Decidable ((entry.label, entry.format) ∈ containers))

/-- The element is labelled as one that carries a message. -/
def Element.IsContainer (element : Element) : Prop :=
  element.label ∈ containers.map Prod.fst

/-- The value of a container, behind a tag, if there is one, and two octets of length. -/
def Element.contentSpan (element : Element) : Span :=
  ⟨element.span.start + (element.tag.toList.length + 2), element.span.stop⟩

/-- The element is a container whose value stands among octets, so many behind their start. -/
structure Element.Embeds
    (element : Element)
    (least : Nat)
    (window : Window) :
    Prop where
  isContainer : element.IsContainer
  start_le : window.position + least ≤ element.contentSpan.start
  ordered : element.contentSpan.start ≤ element.contentSpan.stop
  stop_le : element.contentSpan.stop ≤ window.stop

/-- Decoders enter messages only from containers. -/
def Catalogue.EntersContainers (catalogue : Catalogue) : Prop :=
  ∀ entry ∈ catalogue,
    OctetDecoder.entersMessages entry.decoder.decodeOctets = true → entry.IsContainer

theorem ElementSpec.IsContainer.headerLength_eq
    {entry : ElementSpec}
    (isContainer : entry.IsContainer) :
    entry.format.headerLength = entry.format.tag?.toList.length + 2 := by
  simp only [IsContainer, containers, List.mem_cons, List.not_mem_nil, or_false,
    Prod.mk.injEq] at isContainer
  rcases isContainer with ⟨-, format_eq⟩ | ⟨-, format_eq⟩ | ⟨-, format_eq⟩ <;>
    rw [format_eq] <;> rfl

/-! ## Pieces -/

/-- The piece is one of half an octet, or was cut off the window for an entry. -/
inductive Piece.CutFrom (scope : Scope) (window : Window) (entries : Catalogue) :
    Piece → Prop where
  | half {entry : ElementSpec} {start : Nat} {nibble : UInt8}
      (member : entry ∈ entries) :
      CutFrom scope window entries (entry.halfPiece start nibble)
  | body {entry : ElementSpec} {cursor body after : Window} {containerType : Option UInt8}
      (member : entry ∈ entries)
      (reaches : window.Reaches cursor)
      (framing : entry.format.frame cursor = .body body after) :
      CutFrom scope window entries
        (entry.bodyPiece { scope with containerType } cursor.position after.position body)

theorem Piece.CutFrom.cons
    {scope : Scope}
    {window after : Window}
    {entry : ElementSpec}
    {entries : Catalogue}
    {piece : Piece}
    {containerType : Option UInt8}
    (cutFrom : piece.CutFrom { scope with containerType } after entries)
    (reaches : window.Reaches after) :
    piece.CutFrom scope window (entry :: entries) := by
  cases cutFrom with
  | half member =>
      exact .half (List.mem_cons_of_mem _ member)
  | body member further framing =>
      exact .body (List.mem_cons_of_mem _ member) (reaches.trans further) framing

theorem Visits.cutFrom
    {scope lastScope : Scope}
    {window cursor : Window}
    {entries : Catalogue}
    {pieces : List Piece}
    (visits : Visits scope window entries pieces lastScope cursor) :
    ∀ piece ∈ pieces, piece.CutFrom scope window entries := by
  induction visits with
  | nil =>
      simp
  | absent framing visits inductionHypothesis =>
      intro piece member
      exact (inductionHypothesis piece member).cons (.refl _)
  | half framing visits inductionHypothesis =>
      refine List.forall_mem_cons.mpr ⟨.half List.mem_cons_self, fun piece member => ?_⟩
      exact (inductionHypothesis piece member).cons (WireFormat.reaches_of_frame_half framing).1
  | body framing visits inductionHypothesis =>
      refine List.forall_mem_cons.mpr
        ⟨.body List.mem_cons_self (.refl _) framing, fun piece member => ?_⟩
      exact (inductionHypothesis piece member).cons (WireFormat.reaches_of_frame_body framing).1

/-! ## What pieces carry -/

/-- A message was entered from the value of an element. -/
structure Scope.Entered
    (scope : Scope)
    (least : Nat)
    (window : Window)
    (element : Element)
    (carried : Message) :
    Prop where
  embeds : element.Embeds least window
  value_eq : element.value = .message carried
  nested_eq : ∃ carriage after,
    scope.nested carriage (window.portion element.contentSpan) = some (carried, after)

/-- The message in the value of an element was nested too deep, and left as it is. -/
structure Scope.Refused
    (scope : Scope)
    (least : Nat)
    (window : Window)
    (element : Element) :
    Prop where
  embeds : element.Embeds least window
  value_eq : element.value = .octets (window.portion element.contentSpan).rest
  nested_eq : ∃ carriage, scope.nested carriage (window.portion element.contentSpan) = none

namespace ElementSpec.IsContainer

variable {entry : ElementSpec} {scope : Scope} {window cursor body after : Window}

/-- The value of a container is the body that was cut off for it. -/
theorem contentSpan_eq
    {value : Value}
    (isContainer : entry.IsContainer)
    (framing : entry.format.frame cursor = .body body after) :
    (entry.element ⟨cursor.position, after.position⟩ value).contentSpan = body.remainingSpan := by
  rw [WireFormat.remainingSpan_of_frame_body framing, isContainer.headerLength_eq]
  rfl

theorem embeds
    {value : Value}
    (isContainer : entry.IsContainer)
    (reaches : window.Reaches cursor)
    (framing : entry.format.frame cursor = .body body after) :
    (entry.element ⟨cursor.position, after.position⟩ value).Embeds 2 window := by
  have span_eq :
      (entry.element ⟨cursor.position, after.position⟩ value).contentSpan = body.remainingSpan :=
    isContainer.contentSpan_eq framing
  have header_eq := WireFormat.remainingSpan_of_frame_body framing
  have further := (WireFormat.reaches_of_frame_body framing).1
  refine ⟨List.mem_map_of_mem isContainer, ?_, ?_, ?_⟩
  · have start_le := reaches.position_le
    rw [span_eq, header_eq, isContainer.headerLength_eq]
    show window.position + 2 ≤ cursor.position + _
    omega
  · rw [span_eq]
    exact body.position_le_stop
  · rw [span_eq, header_eq, ← (reaches.trans further).stop_eq]
    exact after.position_le_stop

theorem portion_eq
    {value : Value}
    (isContainer : entry.IsContainer)
    (reaches : window.Reaches cursor)
    (framing : entry.format.frame cursor = .body body after) :
    window.portion (entry.element ⟨cursor.position, after.position⟩ value).contentSpan = body := by
  have start_le : cursor.position ≤ body.position :=
    (WireFormat.reaches_of_frame_body framing).2.1
  rw [isContainer.contentSpan_eq framing, ← reaches.portion_eq start_le]
  exact (WireFormat.portion_of_frame_body framing).symm

end ElementSpec.IsContainer

/-- What became of the messages in a piece. -/
inductive Piece.Nests (piece : Piece) (scope : Scope) (window : Window) : Prop where
  /-- There are none. -/
  | flat
      (carriesNone : ∀ carried, ¬ piece.element.value.Carries carried)
      (meetsNoLimit : ∀ diagnostic ∈ piece.diagnostics, ∀ limit,
        diagnostic.kind ≠ .nestingLimit limit)
  /-- One was entered. -/
  | entered (carried : Message)
      (entered : scope.Entered 2 window piece.element carried)
      (diagnostics_eq : piece.diagnostics = [])
  /-- One was not entered, which is all that is reported. -/
  | refused
      (refused : scope.Refused 2 window piece.element)
      (diagnostics_eq : piece.diagnostics =
        [⟨.nestingLimit scope.config.maxNestingDepth, piece.element.contentSpan⟩])

open ElementValue in
/-- A piece of regular decoders that enter messages from containers. -/
theorem Piece.CutFrom.nests
    {scope : Scope}
    {window : Window}
    {entries : Catalogue}
    {piece : Piece}
    (regular : entries.Regular)
    (entersContainers : entries.EntersContainers)
    (cutFrom : piece.CutFrom scope window entries) :
    piece.Nests scope window := by
  cases cutFrom with
  | @half entry start nibble member =>
      refine .flat (fun carried => ?_) (by simp [ElementSpec.halfPiece])
      exact ((regular entry member).decodeNibble_isPlain nibble).not_carries
  | @body entry cursor body after containerType member reaches framing =>
      -- what is nested does not depend on what containers have announced by then
      let inner : Scope := { scope with containerType }
      have handles : OctetDecoder.Handles entry.decoder.decodeOctets inner body :=
        (regular entry member).handles
      cases handles with
      | reads reading flat decode_eq =>
          have reading_eq : entry.decoder.decodeOctets inner body = reading :=
            decode_eq inner.config.maxNestingDepth inner.nested
          rw [ElementSpec.bodyPiece, reading_eq]
          refine .flat (fun carried => flat.valueOf_not_carries) ?_
          exact fun diagnostic reported limit =>
            flat.diagnosticsOf_meetsNoLimit entry reported
      | enters carriage enters decode_eq =>
          have isContainer := entersContainers entry member enters
          have reading_eq :
              entry.decoder.decodeOctets inner body =
                ElementValue.carriedMessage carriage inner body :=
            decode_eq inner.config.maxNestingDepth inner.nested
          cases nested_eq : inner.nested carriage body with
          | none =>
              rw [ElementSpec.bodyPiece, reading_eq, carriedMessage_of_none nested_eq]
              refine .refused ⟨isContainer.embeds reaches framing, ?_, carriage, ?_⟩ ?_
              · rw [isContainer.portion_eq reaches framing]
                rfl
              · rwa [isContainer.portion_eq reaches framing]
              · rw [isContainer.contentSpan_eq framing]
                rfl
          | some outcome =>
              obtain ⟨carried, left⟩ := outcome
              rw [ElementSpec.bodyPiece, reading_eq, carriedMessage_of_some nested_eq]
              refine .entered carried ⟨isContainer.embeds reaches framing, rfl, carriage, left, ?_⟩
                rfl
              rwa [isContainer.portion_eq reaches framing]

/-! ## Walks -/

/--
Whatever elements carry was entered from a container, and whatever is reported
about a limit is reported of a container that was refused.
-/
structure Scope.Nests
    (scope : Scope)
    (least : Nat)
    (window : Window)
    (elements : List Element)
    (diagnostics : List Diagnostic) :
    Prop where
  entered {element : Element} {carried : Message} :
    element ∈ elements → element.value.Carries carried →
      scope.Entered least window element carried
  refused {limit : Nat} {span : Span} :
    ⟨.nestingLimit limit, span⟩ ∈ diagnostics →
      limit = scope.config.maxNestingDepth ∧
        ∃ element ∈ elements, scope.Refused least window element ∧ element.contentSpan = span

theorem Ending.not_nestingLimit
    {ending : Ending}
    {cursor stop limit : Nat}
    {span : Span} :
    ⟨.nestingLimit limit, span⟩ ∉ ending.diagnostics cursor stop := by
  cases ending <;> simp [Ending.diagnostics]

theorem Catalogue.walk_nests
    {catalogue : Catalogue}
    (regular : catalogue.Regular)
    (entersContainers : catalogue.EntersContainers)
    (scope : Scope)
    (window : Window) :
    scope.Nests 2 window
      (Catalogue.walk scope window catalogue).elements
      (Catalogue.walk scope window catalogue).diagnostics := by
  obtain ⟨visited, unvisited, pieces, cursor, ending, rfl, course⟩ :=
    Catalogue.exists_course scope window catalogue
  obtain ⟨⟨lastScope, visits⟩, -, walk_eq⟩ := course
  have nests (piece : Piece) (member : piece ∈ pieces) : piece.Nests scope window :=
    (visits.cutFrom piece member).nests
      (fun entry visitedMember => regular entry (List.mem_append_left _ visitedMember))
      (fun entry visitedMember => entersContainers entry (List.mem_append_left _ visitedMember))
  rw [walk_eq]
  constructor
  · intro element carried member carries
    simp only [Walk.behind, Ending.walk, List.append_nil, List.mem_map] at member
    obtain ⟨piece, pieceMember, rfl⟩ := member
    cases nests piece pieceMember with
    | flat carriesNone meetsNoLimit =>
        exact (carriesNone carried carries).elim
    | entered message entered diagnostics_eq =>
        rw [entered.value_eq] at carries
        cases carries
        exact entered
    | refused refused diagnostics_eq =>
        rw [refused.value_eq] at carries
        cases carries
  · intro limit span reported
    rcases List.mem_append.mp reported with inPieces | inEnding
    · obtain ⟨piece, pieceMember, own⟩ := List.mem_flatMap.mp inPieces
      cases nests piece pieceMember with
      | flat carriesNone meetsNoLimit =>
          exact (meetsNoLimit _ own limit rfl).elim
      | entered message entered diagnostics_eq =>
          rw [diagnostics_eq] at own
          cases own
      | refused refused diagnostics_eq =>
          rw [diagnostics_eq, List.mem_singleton] at own
          cases own
          refine ⟨rfl, piece.element, ?_, refused, rfl⟩
          exact List.mem_append_left _ (List.mem_map_of_mem pieceMember)
    · exact (Ending.not_nestingLimit inEnding).elim

end LteNas
