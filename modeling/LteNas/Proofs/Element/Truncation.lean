import LteNas.Proofs.Element.Grammar
import LteNas.Proofs.Element.Moving
import LteNas.Proofs.Element.Tiling

namespace LteNas

/-!
# Walks over truncated octets

What an element is depends on its own octets and on the elements in front of it.
So a walk over the octets up to a cut finds the elements that end there or
before, and no others: the first element that the cut runs through ends the
walk, and an entry that was absent stays absent.
-/

/-- The window with no octets but those in front of an absolute offset. -/
def Window.cutAt (window : Window) (cut : Nat) : Window :=
  { window with rest := window.rest.take (cut - window.position) }

namespace Window

variable (window : Window) (cut : Nat)

@[simp] theorem cutAt_position :
    (window.cutAt cut).position = window.position := by
  rfl

@[simp] theorem cutAt_rest :
    (window.cutAt cut).rest = window.rest.take (cut - window.position) := by
  rfl

/-- Reading on and cutting off the end do not interfere. -/
theorem cutAt_advance
    (count : Nat) :
    (window.cutAt cut).advance count = (window.advance count).cutAt cut := by
  simp only [cutAt, advance, position, List.drop_take, Window.mk.injEq, true_and]
  congr 1
  omega

/-- A cut behind so many octets leaves that many. -/
theorem cutAt_ofOctets
    (octets : List UInt8)
    (start count : Nat) :
    (ofOctets octets start).cutAt (start + count) = ofOctets (octets.take count) start := by
  simp [cutAt, ofOctets, position]

variable {window cut}

/-- Octets are left in front of a cut when there are some and the cut is further on. -/
theorem cutAt_rest_eq_nil_iff :
    (window.cutAt cut).rest = [] ↔ window.rest = [] ∨ cut ≤ window.position := by
  rw [cutAt_rest, List.take_eq_nil_iff, Nat.sub_eq_zero_iff_le]
  exact Or.comm

/-- Octets that are left are followed by those that were cut off. -/
theorem rest_of_cutAt
    {octets : List UInt8}
    (shape : (window.cutAt cut).rest = octets) :
    ∃ lost, window.rest = octets ++ lost := by
  refine ⟨window.rest.drop (cut - window.position), ?_⟩
  rw [← shape, cutAt_rest, List.take_append_drop]

end Window

/-! ## Truncated elements -/

/-- What an outcome of a cut becomes when the octets end early: a value that is not whole runs past the end. -/
inductive Framing.Truncated (cut : Nat) : Framing → Framing → Prop where
  | absent :
      Truncated cut .absent .absent
  | overrun :
      Truncated cut .overrun .overrun
  | half {nibble : UInt8} {after : Window} :
      Truncated cut (.half nibble after) (.half nibble (after.cutAt cut))
  | whole {body after : Window}
      (fits : after.position ≤ cut) :
      Truncated cut (.body body after) (.body body (after.cutAt cut))
  | broken {body after : Window}
      (short : cut < after.position) :
      Truncated cut (.body body after) .overrun

namespace WireFormat

variable {format : WireFormat} {window : Window} {cut : Nat}

/-- A value that is whole in front of the cut is cut off as if nothing had been lost. -/
theorem frame_cutAt_of_spelled
    {value behind : List UInt8}
    (more : (window.cutAt cut).rest ≠ [])
    (admitted : format.Admits value.length)
    (spelled : window.rest = format.header value.length ++ value ++ behind)
    (fits : window.position + (format.headerLength + value.length) ≤ cut) :
    format.frame (window.cutAt cut) =
      .body (.ofOctets value (window.position + format.headerLength))
        ((window.advance (format.headerLength + value.length)).cutAt cut) := by
  have length := format.framed_length value
  have kept :
      (window.cutAt cut).rest =
        format.header value.length ++ value ++
          behind.take (cut - window.position - (format.headerLength + value.length)) := by
    rw [Window.cutAt_rest, spelled, List.take_append, length, List.take_of_length_le]
    omega
  rw [frame_of_cuts more (cuts_of_spelled _ admitted kept), Window.cutAt_advance,
    Window.cutAt_position]

/-- No value is whole in front of the cut unless it ends there. -/
theorem frame_cutAt_of_not_spelled
    {first : UInt8}
    {others : List UInt8}
    (shape : (window.cutAt cut).rest = first :: others)
    (accepted : format.accepts first = true)
    (whole : ¬ format.IsHalf)
    (short : ∀ value behind, format.Admits value.length →
      window.rest = format.header value.length ++ value ++ behind →
        cut < window.position + (format.headerLength + value.length)) :
    format.frame (window.cutAt cut) = .overrun := by
  refine frame_of_not_spelled shape accepted whole fun value behind admitted spelled => ?_
  obtain ⟨lost, kept⟩ := Window.rest_of_cutAt spelled
  have beyond := short value (behind ++ lost) admitted (by rw [kept, List.append_assoc])
  have length := congrArg List.length spelled
  simp only [Window.cutAt_rest, List.length_take, List.length_append, header_length] at length
  have more : window.position < cut := by
    by_contra before
    have empty := Window.cutAt_rest_eq_nil_iff.mpr (.inr (Nat.not_lt.mp before))
    rw [shape] at empty
    cases empty
  omega

/-- As long as octets are left, each outcome becomes what a cut makes of it. -/
theorem frame_truncated
    (format : WireFormat)
    (more : (window.cutAt cut).rest ≠ []) :
    Framing.Truncated cut (format.frame window) (format.frame (window.cutAt cut)) := by
  obtain ⟨first, others, shape⟩ := List.exists_cons_of_ne_nil more
  obtain ⟨lost, wholeShape⟩ := Window.rest_of_cutAt shape
  rw [List.cons_append] at wholeShape
  cases accepted : format.accepts first with
  | false =>
      rw [frame_of_not_accepts shape accepted, frame_of_not_accepts wholeShape accepted]
      exact .absent
  | true =>
      by_cases half : format.IsHalf
      · rw [frame_of_isHalf shape accepted half, frame_of_isHalf wholeShape accepted half,
          Window.cutAt_advance]
        exact .half
      · by_cases spelled : ∃ value behind,
            format.Admits value.length ∧
              window.rest = format.header value.length ++ value ++ behind
        · obtain ⟨value, behind, admitted, spelled⟩ := spelled
          have cuts := cuts_of_spelled window admitted spelled
          have nonempty : window.rest ≠ [] := by
            simp [wholeShape]
          rw [frame_of_cuts nonempty cuts]
          by_cases fits : window.position + (format.headerLength + value.length) ≤ cut
          · rw [frame_cutAt_of_spelled more admitted spelled fits]
            exact .whole (by rwa [Window.advance_position])
          · rw [frame_cutAt_of_not_spelled shape accepted half]
            · exact .broken (by rw [Window.advance_position]; omega)
            · intro other behindOther otherAdmitted otherSpelled
              -- only one value can be cut off the octets in front
              have otherCuts := cuts_of_spelled window otherAdmitted otherSpelled
              have same := (frame_of_cuts nonempty cuts).symm.trans
                (frame_of_cuts nonempty otherCuts)
              have position_eq := congrArg Window.position (Framing.body.inj same).2
              simp only [Window.advance_position] at position_eq
              omega
        · have short (value behind : List UInt8) (admitted : format.Admits value.length) :
              window.rest ≠ format.header value.length ++ value ++ behind :=
            fun spelling => spelled ⟨value, behind, admitted, spelling⟩
          rw [frame_of_not_spelled wholeShape accepted half short,
            frame_cutAt_of_not_spelled shape accepted half]
          · exact .overrun
          · exact fun value behind admitted spelling =>
              (short value behind admitted spelling).elim

/-- A value moves the window on, unless the format takes no octet at all. -/
theorem position_lt_of_frame_body
    {body after : Window}
    (takesOctets : format ≠ .fixed 0)
    (framing : format.frame window = .body body after) :
    window.position < after.position := by
  obtain ⟨encoding, value, shape, encodes⟩ := encodes_of_frame_body framing
  obtain ⟨⟨count, fits, rfl⟩, -, -⟩ := reaches_of_frame_body framing
  have taken := List.length_pos_iff.mpr (encodes.ne_nil takesOctets)
  have length := congrArg List.length shape
  simp only [List.length_append, Window.advance_rest, List.length_drop] at length
  rw [Window.remaining] at fits
  rw [Window.advance_position]
  omega

end WireFormat

/-! ## Truncated walks -/

namespace Catalogue

/-- Every entry takes at least half an octet when it is there. -/
def TakesOctets (catalogue : Catalogue) : Prop :=
  ∀ entry ∈ catalogue, entry.format ≠ .fixed 0

/-- In an unambiguous catalogue no entry is empty. -/
theorem Unambiguous.takesOctets
    {catalogue : Catalogue}
    (unambiguous : catalogue.Unambiguous) :
    catalogue.TakesOctets := by
  induction unambiguous with
  | nil =>
      simp [TakesOctets]
  | pair lowFormat highFormat _ inductionHypothesis =>
      refine List.forall_mem_cons.mpr ⟨by simp [lowFormat], ?_⟩
      exact List.forall_mem_cons.mpr ⟨by simp [highFormat], inductionHypothesis⟩
  | mandatory _ _ takesOctets _ inductionHypothesis =>
      exact List.forall_mem_cons.mpr ⟨takesOctets, inductionHypothesis⟩
  | optional optional _ _ inductionHypothesis =>
      exact List.forall_mem_cons.mpr
        ⟨WireFormat.ne_fixed_of_not_isMandatory optional, inductionHypothesis⟩

/-- Without octets a walk finds nothing. -/
theorem walk_elements_of_nil
    {window : Window}
    (empty : window.rest = [])
    (scope : Scope)
    (catalogue : Catalogue) :
    (walk scope window catalogue).elements = [] := by
  induction catalogue with
  | nil =>
      simp [walk, Walk.finish, Window.isEmpty, empty]
  | cons entry entries inductionHypothesis =>
      rw [walk, WireFormat.frame_of_nil empty]
      by_cases mandatory : entry.format.IsMandatory
      · rw [if_pos mandatory]
      · rw [if_neg mandatory]
        exact inductionHypothesis

/-- Every element ends behind the place where the walk starts. -/
theorem position_lt_stop
    {catalogue : Catalogue}
    (takesOctets : catalogue.TakesOctets)
    (scope : Scope)
    (window : Window) :
    ∀ element ∈ (walk scope window catalogue).elements,
      window.position < element.span.stop := by
  induction catalogue generalizing scope window with
  | nil =>
      rw [walk, Walk.finish]
      split <;> simp
  | cons entry entries inductionHypothesis =>
      obtain ⟨entryTakes, entriesTake⟩ := List.forall_mem_cons.mp takesOctets
      rw [walk]
      cases framing : entry.format.frame window with
      | absent =>
          exact inductionHypothesis entriesTake scope window
      | missing | overrun =>
          simp
      | half nibble after =>
          have reaches := (WireFormat.reaches_of_frame_half framing).1
          refine List.forall_mem_cons.mpr ⟨Nat.lt_succ_self _, fun element member => ?_⟩
          exact Nat.lt_of_le_of_lt reaches.position_le
            (inductionHypothesis entriesTake scope after element member)
      | body body after =>
          have moved := WireFormat.position_lt_of_frame_body entryTakes framing
          refine List.forall_mem_cons.mpr ⟨moved, fun element member => ?_⟩
          exact Nat.lt_trans moved (inductionHypothesis entriesTake _ after element member)

/-- A walk up to a cut finds the elements of the whole walk that end there or before. -/
theorem walk_cutAt_elements
    {catalogue : Catalogue}
    (takesOctets : catalogue.TakesOctets)
    (scope : Scope)
    (window : Window)
    (cut : Nat) :
    (walk scope (window.cutAt cut) catalogue).elements =
      (walk scope window catalogue).elements.filter fun element => element.span.stop ≤ cut := by
  induction catalogue generalizing scope window with
  | nil =>
      rw [walk, walk, Walk.finish, Walk.finish]
      split <;> split <;> simp
  | cons entry entries inductionHypothesis =>
      obtain ⟨entryTakes, entriesTake⟩ := List.forall_mem_cons.mp takesOctets
      by_cases empty : (window.cutAt cut).rest = []
      · rw [walk_elements_of_nil empty]
        rcases Window.cutAt_rest_eq_nil_iff.mp empty with nothing | before
        · rw [walk_elements_of_nil nothing, List.filter_nil]
        · refine (List.filter_eq_nil_iff.mpr fun element member => ?_).symm
          have behind := position_lt_stop takesOctets scope window element member
          simp only [decide_eq_true_eq]
          omega
      · have inside : window.position < cut := by
          by_contra before
          exact empty (Window.cutAt_rest_eq_nil_iff.mpr (.inr (Nat.not_lt.mp before)))
        have truncated := entry.format.frame_truncated empty
        generalize framing : entry.format.frame window = outcome,
          cutFraming : entry.format.frame (window.cutAt cut) = cutOutcome at truncated
        rw [walk, walk, framing, cutFraming]
        cases truncated with
        | absent =>
            exact inductionHypothesis entriesTake scope window
        | overrun =>
            rfl
        | @half nibble after =>
            have kept : decide (window.position + 1 ≤ cut) = true :=
              decide_eq_true inside
            simp only [Walk.prepend, ElementSpec.element, Window.cutAt_position,
              inductionHypothesis entriesTake scope after, List.filter_cons, kept, if_true]
        | @whole body after fits =>
            simp only [Walk.prepend, ElementSpec.element, Window.cutAt_position,
              inductionHypothesis entriesTake _ after, List.filter_cons, decide_eq_true fits, if_true]
        | @broken body after short =>
            refine (List.filter_eq_nil_iff.mpr ?_).symm
            refine List.forall_mem_cons.mpr ⟨?_, fun element member => ?_⟩
            · show ¬ decide (after.position ≤ cut) = true
              simpa using short
            · have behind := position_lt_stop entriesTake _ after element member
              simp only [decide_eq_true_eq]
              omega

end Catalogue

/-! ## The entry at which a walk stops -/

/-- The first mandatory entry for which no element stands. -/
def Catalogue.firstMissing?
    (catalogue : Catalogue)
    (elements : List Element) :
    Option ElementSpec :=
  catalogue.find? fun entry =>
    entry.format.IsMandatory ∧ ∀ element ∈ elements, element.label ≠ entry.label

/-- The walk could not cut off an entry, and says so in its last diagnostic. -/
def Walk.StopsAt (walk : Walk) (entry : ElementSpec) : Prop :=
  walk.flow = .stopped ∧
    ∃ diagnostic,
      walk.diagnostics.getLast? = some diagnostic ∧
        (diagnostic.kind = .missingMandatory entry.label ∨
          diagnostic.kind = .outOfBounds entry.label)

theorem Piece.IsDecoded.label_eq
    {piece : Piece}
    (decoded : piece.IsDecoded) :
    piece.element.label = piece.entry.label := by
  rcases decoded with ⟨start, nibble, shape⟩ | ⟨scope, start, stop, body, shape⟩
  · rw [shape]
    rfl
  · rw [shape]
    rfl

/-- Behind an optional entry there are only optional ones. -/
theorem Catalogue.Unambiguous.pairwise_optional
    {catalogue : Catalogue}
    (unambiguous : catalogue.Unambiguous) :
    catalogue.Pairwise fun earlier later =>
      ¬ earlier.format.IsMandatory → ¬ later.format.IsMandatory := by
  induction unambiguous with
  | nil =>
      exact .nil
  | pair lowFormat highFormat _ inductionHypothesis =>
      refine .cons (fun later _ optional => ?_) (.cons (fun later _ optional => ?_) inductionHypothesis)
      · rw [lowFormat] at optional
        exact (optional rfl).elim
      · rw [highFormat] at optional
        exact (optional rfl).elim
  | mandatory mandatory _ _ _ inductionHypothesis =>
      exact .cons (fun later _ optional => (optional mandatory).elim) inductionHypothesis
  | optional _ apart _ inductionHypothesis =>
      exact .cons (fun later member _ => (apart later member).1) inductionHypothesis

section Stopping

variable {scope : Scope} {window cursor : Window} {visited unvisited : Catalogue}
  {pieces : List Piece} {ending : Ending}

/-- The elements of a course are those of its pieces. -/
theorem Course.elements_eq
    (course : Course scope window visited unvisited pieces cursor ending) :
    (Catalogue.walk scope window (visited ++ unvisited)).elements =
      pieces.map Piece.element := by
  rw [course.walk_eq]
  simp [Walk.behind, Ending.walk]

/-- Every visited mandatory entry has an element, which has its label. -/
theorem Course.exists_element
    {entry : ElementSpec}
    (course : Course scope window visited unvisited pieces cursor ending)
    (member : entry ∈ visited)
    (mandatory : entry.format.IsMandatory) :
    ∃ element ∈ pieces.map Piece.element, element.label = entry.label := by
  obtain ⟨lastScope, visits⟩ := course.visits
  have contributed : entry ∈ pieces.map Piece.entry := by
    apply visits.mandatory_sublist.subset
    exact List.mem_filter.mpr ⟨member, by simpa using mandatory⟩
  obtain ⟨piece, pieceMember, rfl⟩ := List.mem_map.mp contributed
  exact ⟨piece.element, List.mem_map_of_mem pieceMember,
    (visits.isDecoded piece pieceMember).label_eq⟩

/-- Every element has the label of a visited entry. -/
theorem Course.label_mem
    {element : Element}
    (course : Course scope window visited unvisited pieces cursor ending)
    (member : element ∈ pieces.map Piece.element) :
    element.label ∈ visited.map ElementSpec.label := by
  obtain ⟨lastScope, visits⟩ := course.visits
  obtain ⟨piece, pieceMember, rfl⟩ := List.mem_map.mp member
  rw [(visits.isDecoded piece pieceMember).label_eq]
  exact List.mem_map_of_mem (visits.entries_sublist.subset (List.mem_map_of_mem pieceMember))

/-- When entries are left, the first of them is where the walk stops. -/
theorem Course.stopsAt
    {entry : ElementSpec}
    {entries : Catalogue}
    (course : Course scope window visited (entry :: entries) pieces cursor ending) :
    (Catalogue.walk scope window (visited ++ entry :: entries)).StopsAt entry := by
  have fits := course.fits
  rw [course.walk_eq]
  cases ending with
  | complete | extraneous =>
      cases fits.1
  | missing label =>
      obtain ⟨⟨head, same, rfl, -⟩, -⟩ := fits
      obtain rfl : entry = head := Option.some.inj same
      exact ⟨rfl, _, List.getLast?_concat, .inl rfl⟩
  | overrun label =>
      obtain ⟨⟨head, same, rfl⟩, -⟩ := fits
      obtain rfl : entry = head := Option.some.inj same
      exact ⟨rfl, _, List.getLast?_concat, .inr rfl⟩

end Stopping

/-- A walk that finds no element for a mandatory entry stops at the first such entry. -/
theorem Catalogue.walk_stopsAt
    {catalogue : Catalogue}
    {missing : ElementSpec}
    (unambiguous : catalogue.Unambiguous)
    (labels : (catalogue.map ElementSpec.label).Nodup)
    (scope : Scope)
    (window : Window)
    (found : catalogue.firstMissing? (walk scope window catalogue).elements = some missing) :
    (walk scope window catalogue).StopsAt missing := by
  obtain ⟨visited, unvisited, pieces, cursor, ending, rfl, course⟩ :=
    Catalogue.exists_course scope window catalogue
  have ordered := unambiguous.pairwise_optional
  rw [course.elements_eq, firstMissing?, List.find?_append] at found
  have decoded :
      visited.find? (fun entry =>
        entry.format.IsMandatory ∧
          ∀ element ∈ pieces.map Piece.element, element.label ≠ entry.label) = none := by
    rw [List.find?_eq_none]
    intro entry member
    rw [decide_eq_true_eq]
    rintro ⟨mandatory, apart⟩
    obtain ⟨element, elementMember, label_eq⟩ := course.exists_element member mandatory
    exact apart element elementMember label_eq
  rw [decoded, Option.none_or] at found
  cases unvisited with
  | nil =>
      cases found
  | cons entry entries =>
      by_cases mandatory : entry.format.IsMandatory
      · have apart : ∀ element ∈ pieces.map Piece.element, element.label ≠ entry.label := by
          intro element member same
          have twice := course.label_mem member
          rw [same] at twice
          rw [List.map_append, List.map_cons] at labels
          exact (List.nodup_append.mp labels).2.2 _ twice _ List.mem_cons_self rfl
        rw [List.find?_cons_of_pos (by simpa using ⟨mandatory, by simpa using apart⟩)] at found
        cases found
        exact course.stopsAt
      · have behind := (List.pairwise_append.mp ordered).2.1
        rw [List.pairwise_cons] at behind
        have member := List.mem_of_find?_eq_some found
        have wanted := List.find?_some found
        rw [decide_eq_true_eq] at wanted
        rcases List.mem_cons.mp member with rfl | later
        · exact (mandatory wanted.1).elim
        · exact (behind.1 _ later mandatory wanted.1).elim

end LteNas
