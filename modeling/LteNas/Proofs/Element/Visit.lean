import LteNas.Proofs.Element.Framing

namespace LteNas

/-!
# The course of a walk

A walk over a catalogue visits entries until one of them cannot be cut off or
none is left.  The visited entries are told here as a relation, with the pieces
that they contributed, and apart from it the one way in which the walk ended.
What is proved about walks is proved by induction on this relation.
-/

/-! ## Windows further on -/

/-- The window stands further on, by octets that were there to be read. -/
def Window.Reaches (window after : Window) : Prop :=
  ∃ count, count ≤ window.remaining ∧ after = window.advance count

namespace Window.Reaches

variable {window between after : Window}

protected theorem refl
    (window : Window) :
    window.Reaches window :=
  ⟨0, Nat.zero_le _, by simp⟩

protected theorem trans
    (first : window.Reaches between)
    (second : between.Reaches after) :
    window.Reaches after := by
  obtain ⟨count, fits, rfl⟩ := first
  obtain ⟨more, moreFits, rfl⟩ := second
  rw [Window.advance_remaining] at moreFits
  exact ⟨count + more, by omega, Window.advance_advance _ _ _⟩

theorem stop_eq
    (reaches : window.Reaches after) :
    after.stop = window.stop := by
  obtain ⟨count, fits, rfl⟩ := reaches
  exact Window.advance_stop fits

theorem exhaust_eq
    (reaches : window.Reaches after) :
    after.exhaust = window.exhaust := by
  obtain ⟨count, fits, rfl⟩ := reaches
  exact Window.advance_exhaust fits

theorem position_le
    (reaches : window.Reaches after) :
    window.position ≤ after.position := by
  obtain ⟨count, fits, rfl⟩ := reaches
  simp

end Window.Reaches

/-- The next octet stands before the end, or nothing is left. -/
theorem Window.position_le_stop
    (window : Window) :
    window.position ≤ window.stop :=
  Nat.le_add_right _ _

theorem Window.position_eq_stop_iff
    {window : Window} :
    window.position = window.stop ↔ window.rest = [] := by
  rw [← List.length_eq_zero_iff, Window.stop, Window.remaining]
  omega

theorem Window.position_lt_stop_iff
    {window : Window} :
    window.position < window.stop ↔ window.rest ≠ [] := by
  rw [← List.length_pos_iff, Window.stop, Window.remaining]
  omega

namespace WireFormat

variable {format : WireFormat} {window body after : Window} {nibble : UInt8}

/-- Half an octet is cut off from octets that are there. -/
theorem reaches_of_frame_half
    (framing : format.frame window = .half nibble after) :
    window.Reaches after ∧ after.position = window.position + format.halfLength := by
  have tells := format.tells_frame window
  rw [framing] at tells
  obtain ⟨-, rfl, first, others, shape, -, -⟩ := tells
  have short : format.halfLength ≤ 1 := by
    cases format <;> simp [halfLength]
  have fits : format.halfLength ≤ window.remaining := by
    simp only [Window.remaining, shape, List.length_cons]
    omega
  exact ⟨⟨format.halfLength, fits, rfl⟩, Window.advance_position _ _⟩

theorem rest_ne_nil_of_frame_half
    (framing : format.frame window = .half nibble after) :
    window.rest ≠ [] := by
  have tells := format.tells_frame window
  rw [framing] at tells
  obtain ⟨-, -, first, others, shape, -, -⟩ := tells
  simp [shape]

/-- A value is cut off from octets that are there, and is among them. -/
theorem reaches_of_frame_body
    (framing : format.frame window = .body body after) :
    window.Reaches after ∧
      window.position ≤ body.position ∧ body.stop = after.position := by
  have tells := format.tells_frame window
  rw [framing] at tells
  obtain ⟨-, value, -, shape, rfl, rfl⟩ := tells
  have fits : format.headerLength + value.length ≤ window.remaining := by
    simp only [Window.remaining, shape, List.length_append, header_length]
    omega
  refine ⟨⟨_, fits, rfl⟩, by simp, ?_⟩
  simp only [Window.stop, Window.remaining, Window.ofOctets_position,
    Window.ofOctets_rest, Window.advance_position]
  omega

/-- A value is never cut off in the format of half an octet. -/
theorem not_isHalf_of_frame_body
    (framing : format.frame window = .body body after) :
    ¬ format.IsHalf := by
  have tells := format.tells_frame window
  rw [framing] at tells
  obtain ⟨-, value, admitted, -⟩ := tells
  exact not_isHalf_of_admits admitted

/-- Half an octet is never cut off in the format of a value. -/
theorem isHalf_of_frame_half
    (framing : format.frame window = .half nibble after) :
    format.IsHalf := by
  have tells := format.tells_frame window
  rw [framing] at tells
  exact tells.1

/-- Only an optional element can be absent. -/
theorem not_isMandatory_of_frame_absent
    (framing : format.frame window = .absent) :
    ¬ format.IsMandatory := by
  have tells := format.tells_frame window
  rw [framing] at tells
  exact tells.1

end WireFormat

/-! ## Pieces -/

/-- An element of a walk with the entry that it stands for and what its decoder reported. -/
structure Piece where
  entry : ElementSpec
  element : Element
  diagnostics : List Diagnostic

namespace ElementSpec

variable (entry : ElementSpec)

/-- The piece of half an octet. -/
def halfPiece
    (start : Nat)
    (nibble : UInt8) :
    Piece :=
  ⟨entry, entry.element ⟨start, start + 1⟩ (entry.decoder.decodeNibble nibble), []⟩

/-- The piece of a value. -/
def bodyPiece
    (scope : Scope)
    (start stop : Nat)
    (body : Window) :
    Piece :=
  let reading := entry.decoder.decodeOctets scope body
  ⟨entry, entry.element ⟨start, stop⟩ (valueOf reading body), entry.diagnosticsOf reading body⟩

/-- The scope of the entries behind a value. -/
def scopeBehind
    (scope : Scope)
    (body : Window) :
    Scope :=
  { scope with containerType := (entry.decoder.decodeOctets scope body).containerType }

end ElementSpec

/-- Entries are visited from a window on, contribute pieces, and leave a scope and a window. -/
inductive Visits : Scope → Window → Catalogue → List Piece → Scope → Window → Prop where
  | nil {scope : Scope} {window : Window} :
      Visits scope window [] [] scope window
  | absent {scope lastScope : Scope} {window cursor : Window} {entry : ElementSpec}
      {entries : Catalogue} {pieces : List Piece}
      (framing : entry.format.frame window = .absent)
      (visits : Visits scope window entries pieces lastScope cursor) :
      Visits scope window (entry :: entries) pieces lastScope cursor
  | half {scope lastScope : Scope} {window after cursor : Window} {entry : ElementSpec}
      {entries : Catalogue} {pieces : List Piece} {nibble : UInt8}
      (framing : entry.format.frame window = .half nibble after)
      (visits : Visits scope after entries pieces lastScope cursor) :
      Visits scope window (entry :: entries)
        (entry.halfPiece window.position nibble :: pieces) lastScope cursor
  | body {scope lastScope : Scope} {window body after cursor : Window} {entry : ElementSpec}
      {entries : Catalogue} {pieces : List Piece}
      (framing : entry.format.frame window = .body body after)
      (visits : Visits (entry.scopeBehind scope body) after entries pieces lastScope cursor) :
      Visits scope window (entry :: entries)
        (entry.bodyPiece scope window.position after.position body :: pieces) lastScope cursor

/-- A walk with the pieces that were visited before it in front. -/
def Walk.behind
    (walk : Walk)
    (pieces : List Piece) :
    Walk :=
  { walk with
    elements := pieces.map Piece.element ++ walk.elements
    diagnostics := pieces.flatMap Piece.diagnostics ++ walk.diagnostics }

namespace Visits

variable {scope lastScope : Scope} {window cursor : Window} {entries : Catalogue}
  {pieces : List Piece}

/-- Visiting entries only reads on. -/
theorem reaches
    (visits : Visits scope window entries pieces lastScope cursor) :
    window.Reaches cursor := by
  induction visits with
  | nil =>
      exact .refl _
  | absent framing visits inductionHypothesis =>
      exact inductionHypothesis
  | half framing visits inductionHypothesis =>
      exact (WireFormat.reaches_of_frame_half framing).1.trans inductionHypothesis
  | body framing visits inductionHypothesis =>
      exact (WireFormat.reaches_of_frame_body framing).1.trans inductionHypothesis

/-- Behind the visited entries the walk goes on with the others. -/
theorem walk_append
    (visits : Visits scope window entries pieces lastScope cursor)
    (unvisited : Catalogue) :
    Catalogue.walk scope window (entries ++ unvisited) =
      (Catalogue.walk lastScope cursor unvisited).behind pieces := by
  induction visits with
  | nil =>
      rfl
  | absent framing visits inductionHypothesis =>
      rw [List.cons_append, Catalogue.walk, framing]
      exact inductionHypothesis
  | half framing visits inductionHypothesis =>
      rw [List.cons_append, Catalogue.walk, framing]
      simp only [inductionHypothesis]
      rfl
  | body framing visits inductionHypothesis =>
      rename_i scope _ window body after _ entry _ pieces
      have behind :
          Catalogue.walk (entry.scopeBehind scope body) after (_ ++ unvisited) = _ :=
        inductionHypothesis
      rw [ElementSpec.scopeBehind] at behind
      rw [List.cons_append, Catalogue.walk, framing]
      simp only [behind]
      simp [Walk.prepend, Walk.behind, ElementSpec.bodyPiece]

end Visits

/-! ## Endings -/

/-- The ways in which a walk ends behind the entries that it visited. -/
inductive Ending where
  /-- No entry and no octet is left. -/
  | complete
  /-- No entry is left, but octets are. -/
  | extraneous
  /-- The mandatory entry with this label comes next, but no octet is left. -/
  | missing (label : String)
  /-- The entry with this label comes next and runs past the last octet. -/
  | overrun (label : String)
  deriving Repr, DecidableEq

namespace Ending

/-- The flow of a walk with this ending. -/
def flow : Ending → Flow
  | .complete => .done
  | .extraneous => .done
  | .missing _ => .stopped
  | .overrun _ => .stopped

/-- What the walk itself reports, the unread octets standing from `cursor` to `stop`. -/
def diagnostics
    (ending : Ending)
    (cursor stop : Nat) :
    List Diagnostic :=
  match ending with
  | .complete => []
  | .extraneous => [⟨.extraneousData, ⟨cursor, stop⟩⟩]
  | .missing label => [⟨.missingMandatory label, ⟨cursor, stop⟩⟩]
  | .overrun label => [⟨.outOfBounds label, ⟨cursor, stop⟩⟩]

/-- The ending belongs to the unread octets and the entries that were not visited. -/
def Fits
    (ending : Ending)
    (cursor stop : Nat)
    (unvisited : Catalogue) :
    Prop :=
  match ending with
  | .complete =>
      unvisited = [] ∧ cursor = stop
  | .extraneous =>
      unvisited = [] ∧ cursor < stop
  | .missing label =>
      (∃ entry ∈ unvisited.head?, entry.label = label ∧ entry.format.IsMandatory) ∧
        cursor = stop
  | .overrun label =>
      (∃ entry ∈ unvisited.head?, entry.label = label) ∧ cursor < stop

/-- The walk from the last window on. -/
def walk
    (ending : Ending)
    (cursor : Window) :
    Walk :=
  ⟨ending.flow, [], ending.diagnostics cursor.position cursor.stop, cursor.exhaust⟩

/-- At most one ending belongs to what is left. -/
theorem eq_of_fits
    {first second : Ending}
    {cursor stop : Nat}
    {unvisited : Catalogue}
    (firstFits : first.Fits cursor stop unvisited)
    (secondFits : second.Fits cursor stop unvisited) :
    first = second := by
  cases unvisited with
  | nil =>
      cases first <;> cases second <;> simp_all [Fits]
  | cons entry entries =>
      cases first <;> cases second <;> simp_all [Fits]

end Ending

/-- Without entries the walk ends with whether octets are left. -/
theorem Walk.finish_eq
    (window : Window) :
    ∃ ending : Ending,
      ending.Fits window.position window.stop [] ∧ Walk.finish window = ending.walk window := by
  by_cases empty : window.rest = []
  · refine ⟨.complete, ⟨rfl, Window.position_eq_stop_iff.mpr empty⟩, ?_⟩
    simp [Walk.finish, Window.isEmpty, empty, Ending.walk, Ending.flow, Ending.diagnostics,
      Window.exhaust_of_rest_nil]
  · refine ⟨.extraneous, ⟨rfl, Window.position_lt_stop_iff.mpr empty⟩, ?_⟩
    simp [Walk.finish, Window.isEmpty, empty, Ending.walk, Ending.flow, Ending.diagnostics,
      Window.remainingSpan]

/-- The course of a walk: the visited entries with their pieces, and the ending. -/
structure Course
    (scope : Scope)
    (window : Window)
    (visited unvisited : Catalogue)
    (pieces : List Piece)
    (cursor : Window)
    (ending : Ending) :
    Prop where
  visits : ∃ lastScope, Visits scope window visited pieces lastScope cursor
  fits : ending.Fits cursor.position cursor.stop unvisited
  walk_eq :
    Catalogue.walk scope window (visited ++ unvisited) = (ending.walk cursor).behind pieces

namespace Course

variable {scope lastScope : Scope} {window cursor : Window} {unvisited : Catalogue}
  {ending : Ending}

/-- A course from what is left behind some visited entries. -/
theorem of_visits
    {visited : Catalogue}
    {pieces : List Piece}
    (visits : Visits scope window visited pieces lastScope cursor)
    (fits : ending.Fits cursor.position cursor.stop unvisited)
    (walk_eq : Catalogue.walk lastScope cursor unvisited = ending.walk cursor) :
    Course scope window visited unvisited pieces cursor ending where
  visits := ⟨lastScope, visits⟩
  fits := fits
  walk_eq := by rw [visits.walk_append, walk_eq]

/-- The course of a walk that ends before it visits an entry. -/
theorem of_ending
    (fits : ending.Fits window.position window.stop unvisited)
    (walk_eq : Catalogue.walk scope window unvisited = ending.walk window) :
    Course scope window [] unvisited [] window ending :=
  .of_visits .nil fits walk_eq

end Course

/-- Every walk takes a course through its catalogue. -/
theorem Catalogue.exists_course
    (scope : Scope)
    (window : Window)
    (catalogue : Catalogue) :
    ∃ visited unvisited pieces cursor ending,
      catalogue = visited ++ unvisited ∧
        Course scope window visited unvisited pieces cursor ending := by
  induction catalogue generalizing scope window with
  | nil =>
      obtain ⟨ending, fits, walk_eq⟩ := Walk.finish_eq window
      exact ⟨[], [], [], window, ending, rfl, .of_ending fits walk_eq⟩
  | cons entry entries inductionHypothesis =>
      have tells := entry.format.tells_frame window
      cases framing : entry.format.frame window with
      | absent =>
          obtain ⟨visited, unvisited, pieces, cursor, ending, rfl, course⟩ :=
            inductionHypothesis scope window
          obtain ⟨⟨lastScope, visits⟩, fits, walk_eq⟩ := course
          refine ⟨entry :: visited, unvisited, pieces, cursor, ending, rfl,
            ⟨lastScope, .absent framing visits⟩, fits, ?_⟩
          rw [List.cons_append, Catalogue.walk, framing]
          exact walk_eq
      | missing =>
          rw [framing] at tells
          obtain ⟨mandatory, empty⟩ := tells
          refine ⟨[], entry :: entries, [], window, .missing entry.label, rfl,
            .of_ending ⟨⟨entry, rfl, rfl, mandatory⟩, ?_⟩ ?_⟩
          · exact Window.position_eq_stop_iff.mpr empty
          · simp only [Catalogue.walk, framing, Ending.walk,
              Window.exhaust_of_rest_nil empty]
            rfl
      | overrun =>
          rw [framing] at tells
          refine ⟨[], entry :: entries, [], window, .overrun entry.label, rfl,
            .of_ending ⟨⟨entry, rfl, rfl⟩, ?_⟩ ?_⟩
          · exact Window.position_lt_stop_iff.mpr tells
          · simp only [Catalogue.walk, framing]
            rfl
      | half nibble after =>
          obtain ⟨visited, unvisited, pieces, cursor, ending, rfl, course⟩ :=
            inductionHypothesis scope after
          obtain ⟨⟨lastScope, visits⟩, fits, walk_eq⟩ := course
          refine ⟨entry :: visited, unvisited, _ :: pieces, cursor, ending, rfl,
            ⟨lastScope, .half framing visits⟩, fits, ?_⟩
          rw [List.cons_append, Catalogue.walk, framing]
          simp only [walk_eq]
          rfl
      | body body after =>
          obtain ⟨visited, unvisited, pieces, cursor, ending, rfl, course⟩ :=
            inductionHypothesis (entry.scopeBehind scope body) after
          obtain ⟨⟨lastScope, visits⟩, fits, walk_eq⟩ := course
          refine ⟨entry :: visited, unvisited, _ :: pieces, cursor, ending, rfl,
            ⟨lastScope, .body framing visits⟩, fits, ?_⟩
          rw [ElementSpec.scopeBehind] at walk_eq
          rw [List.cons_append, Catalogue.walk, framing]
          simp only [walk_eq]
          simp [Walk.prepend, Walk.behind, ElementSpec.bodyPiece]

end LteNas
