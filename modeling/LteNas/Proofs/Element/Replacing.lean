import LteNas.Proofs.Element.Embedding
import LteNas.Proofs.Element.Moving

namespace LteNas

/-!
# Other octets behind the same ones

What a walk finds in the octets in front does not depend on those behind them.
So where the value of an element is replaced by another one of the same length,
the elements in front of it are found as before, and the walk goes on behind it
as before.
-/

/-- The window with further octets behind its own. -/
def Window.followedBy (window : Window) (octets : List UInt8) : Window :=
  { window with rest := window.rest ++ octets }

/-- The window with other octets in a range. -/
def Window.replaced (window : Window) (span : Span) (octets : List UInt8) : Window :=
  { window with
    rest :=
      window.rest.take (span.start - window.position) ++ octets ++
        window.rest.drop (span.stop - window.position) }

namespace Window

variable {window front : Window} {octets : List UInt8} {count : Nat}

@[simp] theorem followedBy_position :
    (window.followedBy octets).position = window.position := by
  rfl

@[simp] theorem followedBy_rest :
    (window.followedBy octets).rest = window.rest ++ octets := by
  rfl

/-- What is read of the octets in front leaves those behind. -/
theorem followedBy_advance
    (fits : count ≤ window.remaining) :
    (window.followedBy octets).advance count = (window.advance count).followedBy octets := by
  have within : count ≤ window.rest.length := fits
  simp only [followedBy, advance, List.drop_append_of_le_length within]

end Window

namespace WireFormat

variable {format : WireFormat} {front body after : Window} {near : List UInt8}

/-- An entry that is absent is absent whatever is behind. -/
theorem frame_followedBy_absent
    (more : front.rest ≠ [])
    (framing : format.frame (front.followedBy near) = .absent)
    (far : List UInt8) :
    format.frame (front.followedBy far) = .absent := by
  have tells := format.tells_frame (front.followedBy near)
  obtain ⟨first, others, shape⟩ := List.exists_cons_of_ne_nil more
  rw [framing] at tells
  have refused : format.accepts first = false := by
    apply tells.2 first (others ++ near)
    simp [shape]
  have farShape : (front.followedBy far).rest = first :: (others ++ far) := by
    simp [shape]
  exact frame_of_not_accepts farShape refused

/-- Half an octet is the same whatever is behind. -/
theorem frame_followedBy_half
    {nibble : UInt8}
    (more : front.rest ≠ [])
    (framing : format.frame (front.followedBy near) = .half nibble after)
    (far : List UInt8) :
    ∃ last,
      front.Reaches last ∧
        after = last.followedBy near ∧
        format.frame (front.followedBy far) = .half nibble (last.followedBy far) := by
  have tells := format.tells_frame (front.followedBy near)
  obtain ⟨first, others, shape⟩ := List.exists_cons_of_ne_nil more
  rw [framing] at tells
  obtain ⟨half, rfl, head, tail, nearShape, accepted, rfl⟩ := tells
  have farShape : (front.followedBy far).rest = first :: (others ++ far) := by
    simp [shape]
  have head_eq : head = first := by
    rw [Window.followedBy_rest, shape, List.cons_append] at nearShape
    exact (List.cons.inj nearShape).1.symm
  have fits : format.halfLength ≤ front.remaining := by
    have one : 1 ≤ front.remaining :=
      List.length_pos_iff.mpr more
    have most : format.halfLength ≤ 1 := by
      cases format <;> simp [halfLength]
    omega
  subst head_eq
  refine ⟨front.advance format.halfLength, ⟨_, fits, rfl⟩, Window.followedBy_advance fits, ?_⟩
  rw [frame_of_isHalf farShape accepted half, Window.followedBy_advance fits]

/-- A value that ends among the octets in front is the same whatever is behind. -/
theorem frame_followedBy_body
    (more : front.rest ≠ [])
    (framing : format.frame (front.followedBy near) = .body body after)
    (before : after.position ≤ front.stop)
    (far : List UInt8) :
    ∃ last,
      front.Reaches last ∧
        after = last.followedBy near ∧
        format.frame (front.followedBy far) = .body body (last.followedBy far) := by
  have tells := format.tells_frame (front.followedBy near)
  rw [framing] at tells
  obtain ⟨-, value, admitted, spelled, rfl, rfl⟩ := tells
  have fits : format.headerLength + value.length ≤ front.remaining := by
    rw [Window.advance_position, Window.followedBy_position, Window.stop] at before
    omega
  have length := format.framed_length value
  -- the octets in front start with the element
  have shape :
      front.rest = format.header value.length ++ value ++
        front.rest.drop (format.headerLength + value.length) := by
    have taken := congrArg (List.take (format.headerLength + value.length)) spelled
    have inFront : format.headerLength + value.length ≤ front.rest.length := fits
    rw [Window.followedBy_rest, List.take_append_of_le_length inFront, ← length, List.take_left,
      length] at taken
    rw [← taken, List.take_append_drop]
  have farSpelled :
      (front.followedBy far).rest = format.header value.length ++ value ++
        (front.rest.drop (format.headerLength + value.length) ++ far) := by
    rw [Window.followedBy_rest, ← List.append_assoc, ← shape]
  have farMore : (front.followedBy far).rest ≠ [] := by
    simp [more]
  refine ⟨front.advance (format.headerLength + value.length), ⟨_, fits, rfl⟩,
    Window.followedBy_advance fits, ?_⟩
  rw [frame_of_cuts farMore (cuts_of_spelled _ admitted farSpelled),
    Window.followedBy_advance fits]
  rfl

end WireFormat

/-- Entries in front of the last octet are visited as before whatever is behind. -/
theorem Visits.followedBy
    {scope lastScope : Scope}
    {window cursor front : Window}
    {entries : Catalogue}
    {pieces : List Piece}
    {near : List UInt8}
    (visits : Visits scope window entries pieces lastScope cursor)
    (window_eq : window = front.followedBy near)
    (before : cursor.position < front.stop)
    (far : List UInt8) :
    ∃ last,
      front.Reaches last ∧
        cursor = last.followedBy near ∧
        Visits scope (front.followedBy far) entries pieces lastScope (last.followedBy far) := by
  induction visits generalizing front with
  | nil =>
      exact ⟨front, .refl _, window_eq, .nil⟩
  | absent framing visits inductionHypothesis =>
      obtain ⟨last, reaches, cursor_eq, farVisits⟩ := inductionHypothesis window_eq before
      subst window_eq cursor_eq
      have more : front.rest ≠ [] := by
        have position_le := reaches.position_le
        rw [Window.followedBy_position] at before
        exact Window.position_lt_stop_iff.mp (by omega)
      exact ⟨last, reaches, rfl,
        .absent (WireFormat.frame_followedBy_absent more framing far) farVisits⟩
  | half framing visits inductionHypothesis =>
      subst window_eq
      have more : front.rest ≠ [] := by
        have framed := (WireFormat.reaches_of_frame_half framing).1.position_le
        have position_le := visits.reaches.position_le
        rw [Window.followedBy_position] at framed
        exact Window.position_lt_stop_iff.mp (by omega)
      obtain ⟨next, nextReaches, rfl, farFraming⟩ :=
        WireFormat.frame_followedBy_half more framing far
      obtain ⟨last, reaches, cursor_eq, farVisits⟩ :=
        inductionHypothesis rfl (nextReaches.stop_eq ▸ before)
      exact ⟨last, nextReaches.trans reaches, cursor_eq, .half farFraming farVisits⟩
  | body framing visits inductionHypothesis =>
      subst window_eq
      have framed := (WireFormat.reaches_of_frame_body framing).1.position_le
      have position_le := visits.reaches.position_le
      have more : front.rest ≠ [] := by
        rw [Window.followedBy_position] at framed
        exact Window.position_lt_stop_iff.mp (by omega)
      obtain ⟨next, nextReaches, rfl, farFraming⟩ :=
        WireFormat.frame_followedBy_body more framing (by omega) far
      obtain ⟨last, reaches, cursor_eq, farVisits⟩ :=
        inductionHypothesis rfl (nextReaches.stop_eq ▸ before)
      have visited := Visits.body farFraming farVisits
      exact ⟨last, nextReaches.trans reaches, cursor_eq, visited⟩

/-! ## Passing an element -/

/-- The walk passes an element: entries in front of it are visited, and its value is cut off. -/
structure Catalogue.Passes
    (catalogue : Catalogue)
    (scope : Scope)
    (window : Window)
    (before : Catalogue)
    (entry : ElementSpec)
    (behind : Catalogue)
    (pieces : List Piece)
    (here : Scope)
    (cursor body after : Window) :
    Prop where
  catalogue_eq : catalogue = before ++ entry :: behind
  visits : Visits scope window before pieces here cursor
  framing : entry.format.frame cursor = .body body after

namespace Catalogue.Passes

variable {catalogue before behind : Catalogue} {scope here : Scope} {entry : ElementSpec}
  {pieces : List Piece} {window cursor body after : Window}

/-- Behind an element the walk goes on with the entries that are left. -/
theorem walk_eq
    (passes : catalogue.Passes scope window before entry behind pieces here cursor body after) :
    let reading := entry.decoder.decodeOctets here body
    Catalogue.walk scope window catalogue =
      ((Catalogue.walk (entry.scopeBehind here body) after behind).prepend
        (entry.element ⟨cursor.position, after.position⟩ (ElementSpec.valueOf reading body))
        (entry.diagnosticsOf reading body)).behind pieces := by
  intro reading
  rw [passes.catalogue_eq, passes.visits.walk_append, Catalogue.walk, passes.framing]
  rfl

end Catalogue.Passes

/-- An element of a walk that takes whole octets was passed. -/
theorem Catalogue.exists_passes
    {catalogue : Catalogue}
    {scope : Scope}
    {window : Window}
    {element : Element}
    (whole : ∀ entry ∈ catalogue, entry.label = element.label → ¬ entry.format.IsHalf)
    (member : element ∈ (Catalogue.walk scope window catalogue).elements) :
    ∃ before entry behind pieces here cursor body after,
      catalogue.Passes scope window before entry behind pieces here cursor body after ∧
        element =
          entry.element ⟨cursor.position, after.position⟩
            (ElementSpec.valueOf (entry.decoder.decodeOctets here body) body) := by
  induction catalogue generalizing scope window with
  | nil =>
      rw [walk, Walk.finish] at member
      split at member <;> cases member
  | cons entry entries inductionHypothesis =>
      obtain ⟨entryWhole, entriesWhole⟩ := List.forall_mem_cons.mp whole
      rw [walk] at member
      cases framing : entry.format.frame window with
      | absent =>
          rw [framing] at member
          obtain ⟨before, found, behind, pieces, here, cursor, body, after, passes, element_eq⟩ :=
            inductionHypothesis entriesWhole member
          exact ⟨entry :: before, found, behind, pieces, here, cursor, body, after,
            ⟨by rw [passes.catalogue_eq]; rfl, .absent framing passes.visits, passes.framing⟩,
            element_eq⟩
      | missing | overrun =>
          rw [framing] at member
          cases member
      | half nibble after =>
          rw [framing] at member
          rcases List.mem_cons.mp member with rfl | member
          · exact (entryWhole rfl (WireFormat.isHalf_of_frame_half framing)).elim
          · obtain ⟨before, found, behind, pieces, here, cursor, body, left, passes, element_eq⟩ :=
              inductionHypothesis entriesWhole member
            exact ⟨entry :: before, found, behind, _, here, cursor, body, left,
              ⟨by rw [passes.catalogue_eq]; rfl, .half framing passes.visits, passes.framing⟩,
              element_eq⟩
      | body value after =>
          rw [framing] at member
          rcases List.mem_cons.mp member with rfl | member
          · exact ⟨[], entry, entries, [], scope, window, value, after,
              ⟨rfl, .nil, framing⟩, rfl⟩
          · have member :
                element ∈ (Catalogue.walk (entry.scopeBehind scope value) after entries).elements :=
              member
            obtain ⟨before, found, behind, pieces, here, cursor, body, left, passes, element_eq⟩ :=
              inductionHypothesis entriesWhole member
            exact ⟨entry :: before, found, behind, _, here, cursor, body, left,
              ⟨by rw [passes.catalogue_eq]; rfl, .body framing passes.visits, passes.framing⟩,
              element_eq⟩

/-! ## Replacing a value -/

namespace Window

variable {window : Window} {span : Span} {octets : List UInt8} {count : Nat}

/-- The octets in front of a range stay in front when the range is replaced. -/
theorem replaced_rest
    (inFront : window.position + count ≤ span.start)
    (ordered : span.start ≤ span.stop) :
    (window.replaced span octets).rest =
      window.rest.take count ++ ((window.advance count).replaced span octets).rest := by
  have start_eq :
      span.start - window.position = count + (span.start - (window.position + count)) := by
    omega
  have stop_eq : span.stop - window.position = count + (span.stop - (window.position + count)) := by
    omega
  simp only [replaced, advance_rest, advance_position]
  rw [start_eq, stop_eq, List.take_add, List.drop_drop, List.append_assoc, List.append_assoc,
    List.append_assoc]

theorem replaced_advance
    (inFront : window.position + count ≤ span.start)
    (ordered : span.start ≤ span.stop)
    (fits : count ≤ window.remaining) :
    (window.replaced span octets).advance count = (window.advance count).replaced span octets := by
  have taken : (window.rest.take count).length = count :=
    List.length_take_of_le fits
  have rest_eq :
      ((window.replaced span octets).advance count).rest =
        ((window.advance count).replaced span octets).rest := by
    rw [advance_rest, replaced_rest inFront ordered, List.drop_left' taken]
  exact congrArg (Window.mk window.base (window.index + count)) rest_eq

theorem replaced_remaining
    (start_le : window.position ≤ span.start)
    (ordered : span.start ≤ span.stop)
    (stop_le : span.stop ≤ window.stop)
    (length_eq : octets.length = span.stop - span.start) :
    (window.replaced span octets).remaining = window.remaining := by
  rw [stop, remaining] at stop_le
  simp only [replaced, remaining, List.length_append, List.length_take, List.length_drop,
    length_eq]
  omega

end Window

/-- Behind a header the octets that take the place of a value are cut off like the value. -/
theorem WireFormat.frame_of_followedBy_header
    {format : WireFormat}
    {front : Window}
    {value behind : List UInt8}
    (takesOctets : format.headerLength ≠ 0)
    (admitted : format.Admits value.length)
    (shape : front.rest = format.header value.length) :
    format.frame (front.followedBy (value ++ behind)) =
      .body (.ofOctets value (front.position + format.headerLength))
        ⟨front.base, front.index + (format.headerLength + value.length), behind⟩ := by
  have spelled :
      (front.followedBy (value ++ behind)).rest =
        format.header value.length ++ value ++ behind := by
    rw [Window.followedBy_rest, shape, List.append_assoc]
  have header_length := format.header_length value.length
  have more : (front.followedBy (value ++ behind)).rest ≠ [] := by
    intro empty
    rw [spelled, List.append_eq_nil_iff, List.append_eq_nil_iff] at empty
    rw [empty.1.1, List.length_nil] at header_length
    exact takesOctets header_length.symm
  have length := format.framed_length value
  rw [frame_of_cuts more (cuts_of_spelled _ admitted spelled)]
  congr 1
  simp only [Window.advance, spelled, ← length, List.drop_left]
  rfl

/-- An element whose value is replaced is passed in the same way, behind the same pieces. -/
theorem Catalogue.Passes.replaced
    {catalogue before behind : Catalogue}
    {scope here : Scope}
    {entry : ElementSpec}
    {pieces : List Piece}
    {window cursor body after : Window}
    {octets : List UInt8}
    (passes : catalogue.Passes scope window before entry behind pieces here cursor body after)
    (takesOctets : entry.format.headerLength ≠ 0)
    (length_eq : octets.length = body.remaining) :
    ∃ farCursor,
      farCursor.position = cursor.position ∧
        catalogue.Passes scope (window.replaced body.remainingSpan octets) before entry behind
          pieces here farCursor (.ofOctets octets body.position) after := by
  have tells := entry.format.tells_frame cursor
  rw [passes.framing] at tells
  obtain ⟨-, value, admitted, spelled, rfl, after_eq⟩ := tells
  obtain ⟨count, fits, cursor_eq⟩ := passes.visits.reaches
  -- the octets up to the value, behind which both windows go on
  let taken := window.rest.take count ++ entry.format.header value.length
  have taken_length : taken.length = count + entry.format.headerLength := by
    have fits : count ≤ window.rest.length :=
      fits
    rw [List.length_append, WireFormat.header_length, List.length_take, Nat.min_eq_left fits]
  have window_rest : window.rest = taken ++ (value ++ after.rest) := by
    rw [cursor_eq, Window.advance_rest, List.append_assoc] at spelled
    rw [List.append_assoc, ← spelled, List.take_append_drop]
  have cursor_position : cursor.position = window.position + count := by
    rw [cursor_eq, Window.advance_position]
  let front : Window := { window with rest := taken }
  have window_eq : window = front.followedBy (value ++ after.rest) := by
    rw [Window.followedBy, ← window_rest]
  have replaced_eq :
      window.replaced
          (Window.ofOctets value (cursor.position + entry.format.headerLength)).remainingSpan
          octets =
        front.followedBy (octets ++ after.rest) := by
    have start_eq :
        cursor.position + entry.format.headerLength - window.position = taken.length := by
      omega
    have stop_eq :
        cursor.position + entry.format.headerLength + value.length - window.position =
          (taken ++ value).length := by
      rw [List.length_append]
      omega
    simp only [Window.replaced, Window.remainingSpan, Window.stop, Window.ofOctets_position,
      Window.remaining, Window.ofOctets_rest, start_eq, stop_eq, Window.followedBy, front]
    rw [window_rest, List.take_left, ← List.append_assoc taken value, List.drop_left,
      List.append_assoc]
  have inFront : cursor.position < front.stop := by
    have front_stop : front.stop = window.position + taken.length := by
      rfl
    omega
  obtain ⟨last, -, cursor_split, farVisits⟩ :=
    passes.visits.followedBy window_eq inFront (octets ++ after.rest)
  have value_length : octets.length = value.length :=
    length_eq
  have last_rest : last.rest = entry.format.header octets.length := by
    rw [cursor_split, Window.followedBy_rest, List.append_assoc] at spelled
    rw [value_length]
    exact List.append_cancel_right spelled
  have last_position : last.position = cursor.position := by
    rw [cursor_split, Window.followedBy_position]
  have after_split :
      after =
        ⟨last.base, last.index + (entry.format.headerLength + octets.length), after.rest⟩ := by
    rw [value_length]
    have base_eq := congrArg Window.base cursor_split
    have index_eq := congrArg Window.index cursor_split
    rcases after with ⟨base, index, rest⟩
    obtain ⟨rfl, rfl, -⟩ := Window.mk.inj after_eq
    rw [base_eq, index_eq]
    rfl
  have framing :
      entry.format.frame (last.followedBy (octets ++ after.rest)) =
        .body (.ofOctets octets (cursor.position + entry.format.headerLength)) after := by
    rw [after_split, ← last_position]
    exact WireFormat.frame_of_followedBy_header takesOctets (value_length ▸ admitted) last_rest
  refine ⟨last.followedBy (octets ++ after.rest), last_position, passes.catalogue_eq, ?_, framing⟩
  rw [replaced_eq]
  exact farVisits

end LteNas
