import LteNas.Proofs.Element.Visit

namespace LteNas

/-!
# Elements tile the walked octets

No octet is lost and none is read twice.  Each piece starts where the one before
it left the cursor, which is its end, or its start when only the low half of an
octet was taken.  What stands behind the last piece decides how the walk ends.
-/

/-- Where the next piece starts: a low half leaves its octet to the entry behind. -/
def Piece.cursorBehind (piece : Piece) : Nat :=
  if piece.entry.format = .lowHalf then
    piece.element.span.start
  else
    piece.element.span.stop

/-- The element and its diagnostics are what the decoder of the entry made of some octets. -/
def Piece.IsDecoded (piece : Piece) : Prop :=
  (∃ start nibble, piece = piece.entry.halfPiece start nibble) ∨
    ∃ scope start stop body, piece = piece.entry.bodyPiece scope start stop body

/-- Pieces follow each other without gap from a start to a cursor. -/
inductive Tiling : Nat → List Piece → Nat → Prop where
  | nil {cursor : Nat} :
      Tiling cursor [] cursor
  | cons {start cursor : Nat} {piece : Piece} {pieces : List Piece}
      (label_eq : piece.element.label = piece.entry.label)
      (tag_eq : piece.element.tag = piece.entry.format.tag?)
      (start_eq : piece.element.span.start = start)
      (start_le : start ≤ piece.element.span.stop)
      (tiling : Tiling piece.cursorBehind pieces cursor) :
      Tiling start (piece :: pieces) cursor

namespace ElementSpec

variable {entry : ElementSpec} {window body after : Window} {nibble : UInt8}

theorem halfPiece_cursorBehind
    (framing : entry.format.frame window = .half nibble after) :
    (entry.halfPiece window.position nibble).cursorBehind = after.position := by
  rw [(WireFormat.reaches_of_frame_half framing).2]
  by_cases low : entry.format = .lowHalf
  · simp [Piece.cursorBehind, halfPiece, element, low, WireFormat.halfLength]
  · simp [Piece.cursorBehind, halfPiece, element, low, WireFormat.halfLength_of_ne low]

theorem bodyPiece_cursorBehind
    (scope : Scope)
    (framing : entry.format.frame window = .body body after) :
    (entry.bodyPiece scope window.position after.position body).cursorBehind =
      after.position := by
  have whole : entry.format ≠ .lowHalf := by
    intro low
    apply WireFormat.not_isHalf_of_frame_body framing
    rw [low]
    trivial
  simp [Piece.cursorBehind, bodyPiece, element, whole]

end ElementSpec

namespace Visits

variable {scope lastScope : Scope} {window cursor : Window} {entries : Catalogue}
  {pieces : List Piece}

theorem tiling
    (visits : Visits scope window entries pieces lastScope cursor) :
    Tiling window.position pieces cursor.position := by
  induction visits with
  | nil =>
      exact .nil
  | absent framing visits inductionHypothesis =>
      exact inductionHypothesis
  | half framing visits inductionHypothesis =>
      refine .cons rfl rfl rfl (Nat.le_succ _) ?_
      rw [ElementSpec.halfPiece_cursorBehind framing]
      exact inductionHypothesis
  | body framing visits inductionHypothesis =>
      refine .cons rfl rfl rfl ?_ ?_
      · exact (WireFormat.reaches_of_frame_body framing).1.position_le
      · rw [ElementSpec.bodyPiece_cursorBehind _ framing]
        exact inductionHypothesis

theorem entries_sublist
    (visits : Visits scope window entries pieces lastScope cursor) :
    (pieces.map Piece.entry).Sublist entries := by
  induction visits with
  | nil =>
      exact .slnil
  | absent framing visits inductionHypothesis =>
      exact inductionHypothesis.cons _
  | half framing visits inductionHypothesis =>
      exact inductionHypothesis.cons_cons _
  | body framing visits inductionHypothesis =>
      exact inductionHypothesis.cons_cons _

theorem mandatory_sublist
    (visits : Visits scope window entries pieces lastScope cursor) :
    (entries.filter fun entry => entry.format.IsMandatory).Sublist
      (pieces.map Piece.entry) := by
  induction visits with
  | nil =>
      exact .slnil
  | absent framing visits inductionHypothesis =>
      have optional := WireFormat.not_isMandatory_of_frame_absent framing
      rw [List.filter_cons_of_neg (by simpa using optional)]
      exact inductionHypothesis
  | half framing visits inductionHypothesis =>
      rw [List.filter_cons]
      split
      · exact inductionHypothesis.cons_cons _
      · exact inductionHypothesis.cons _
  | body framing visits inductionHypothesis =>
      rw [List.filter_cons]
      split
      · exact inductionHypothesis.cons_cons _
      · exact inductionHypothesis.cons _

theorem isDecoded
    (visits : Visits scope window entries pieces lastScope cursor) :
    ∀ piece ∈ pieces, piece.IsDecoded := by
  induction visits with
  | nil =>
      simp
  | absent framing visits inductionHypothesis =>
      exact inductionHypothesis
  | half framing visits inductionHypothesis =>
      exact List.forall_mem_cons.mpr ⟨.inl ⟨_, _, rfl⟩, inductionHypothesis⟩
  | body framing visits inductionHypothesis =>
      exact List.forall_mem_cons.mpr ⟨.inr ⟨_, _, _, _, rfl⟩, inductionHypothesis⟩

end Visits

/--
A walk reads every octet.  Its elements stand for entries in catalogue order, a
mandatory entry that was visited being among them, and tile the octets up to a
cursor.  Exactly one ending belongs to what is left behind the cursor, and it
decides the flow and what the walk itself reports behind its decoders.
-/
theorem Catalogue.walk_tiles
    (catalogue : Catalogue)
    (scope : Scope)
    (window : Window) :
    let walk := Catalogue.walk scope window catalogue
    walk.window = window.exhaust ∧
      ∃ visited unvisited pieces cursor,
        catalogue = visited ++ unvisited ∧
          (pieces.map Piece.entry).Sublist visited ∧
          (visited.filter fun entry => entry.format.IsMandatory).Sublist
            (pieces.map Piece.entry) ∧
          (∀ piece ∈ pieces, piece.IsDecoded) ∧
          Tiling window.position pieces cursor ∧
          walk.elements = pieces.map Piece.element ∧
          ∃! ending : Ending,
            ending.Fits cursor window.stop unvisited ∧
              walk.flow = ending.flow ∧
              walk.diagnostics =
                pieces.flatMap Piece.diagnostics ++ ending.diagnostics cursor window.stop := by
  intro walk
  obtain ⟨visited, unvisited, pieces, cursor, ending, rfl, course⟩ :=
    Catalogue.exists_course scope window catalogue
  obtain ⟨⟨lastScope, visits⟩, fits, walk_eq⟩ := course
  have reaches := visits.reaches
  rw [reaches.stop_eq] at fits
  refine ⟨?_, visited, unvisited, pieces, cursor.position, rfl, visits.entries_sublist,
    visits.mandatory_sublist, visits.isDecoded, visits.tiling, ?_,
    ending, ⟨fits, ?_, ?_⟩, ?_⟩
  · show (Catalogue.walk _ _ _).window = _
    rw [walk_eq, ← reaches.exhaust_eq]
    rfl
  · show (Catalogue.walk _ _ _).elements = _
    rw [walk_eq]
    simp [Walk.behind, Ending.walk]
  · show (Catalogue.walk _ _ _).flow = _
    rw [walk_eq]
    rfl
  · show (Catalogue.walk _ _ _).diagnostics = _
    rw [walk_eq]
    simp [Walk.behind, Ending.walk, reaches.stop_eq]
  · rintro other ⟨otherFits, -, -⟩
    exact Ending.eq_of_fits otherFits fits

end LteNas
