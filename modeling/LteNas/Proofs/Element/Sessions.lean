import Mathlib.Data.List.Nodup
import LteNas.Proofs.Element.Ciphering
import LteNas.Proofs.Element.Replacing
import LteNas.Proofs.Element.Truncation
import LteNas.Proofs.Octets.Nibbles

namespace LteNas

/-!
# Containers of session messages

Inside a partially ciphered message the container of a session message is read
if its octets can start a message, and left ciphered otherwise.  It is the only
element that may be left ciphered, and what it holds decides nothing but its own
value.
-/

/-! ## Octets that cannot be read -/

/--
Octets that are no clear message: there are none, or the first of them names no
known protocol, or a reserved bearer of session management.
-/
def IsUnreadable : List UInt8 → Prop
  | [] =>
      True
  | first :: _ =>
      (first.toNat % 16 ≠ 2 ∧ first.toNat % 16 ≠ 7 ∧ first.toNat % 16 ≠ 15) ∨
        (first.toNat % 16 = 2 ∧ 1 ≤ first.toNat / 16 ∧ first.toNat / 16 ≤ 4)

instance : DecidablePred IsUnreadable
  | [] => inferInstanceAs (Decidable True)
  | _ :: _ => inferInstanceAs (Decidable (_ ∨ _))

open ElementValue

theorem isUnreadable_cons_iff
    (first : UInt8)
    (others : List UInt8) :
    IsUnreadable (first :: others) ↔ isClearStart first = false := by
  revert first
  exact octet_forall (by simp only [IsUnreadable]; decide +kernel)

theorem isUnreadable_iff
    (window : Window) :
    IsUnreadable window.rest ↔ window.peek?.any isClearStart = false := by
  cases shape : window.rest with
  | nil =>
      simp [IsUnreadable, Window.peek?, shape]
  | cons first others =>
      simp [isUnreadable_cons_iff, Window.peek?, shape]

section Decoders

variable {scope : Scope} {body : Window}

theorem sessionMessage_of_unreadable
    (isPartial : scope.partiallyCiphered = true)
    (unreadable : IsUnreadable body.rest) :
    sessionMessage scope body =
      ⟨.ok (.ciphered body.rest, body.exhaust), [⟨.decipherFailed, body.remainingSpan⟩],
        scope.containerType⟩ := by
  rw [sessionMessage, isPartial, (isUnreadable_iff body).mp unreadable]
  rfl

theorem sessionMessage_of_readable
    (readable : ¬ IsUnreadable body.rest) :
    sessionMessage scope body = carriedMessage .bare scope body := by
  rw [isUnreadable_iff, Bool.not_eq_false] at readable
  rw [sessionMessage, readable]
  simp

/-- What a container of a session message holds does not depend on what was announced. -/
theorem sessionMessage_announced
    (scope : Scope)
    (containerType : Option UInt8)
    (body : Window) :
    sessionMessage { scope with containerType } body =
      { sessionMessage scope body with containerType } := by
  simp only [sessionMessage, carriedMessage]
  split
  · rfl
  · cases scope.nested .bare body with
    | none =>
        rfl
    | some outcome =>
        rfl

/-- A container of a session message always has a value. -/
theorem diagnosticsOf_sessionMessage
    (entry : ElementSpec)
    (scope : Scope)
    (body : Window) :
    entry.diagnosticsOf (sessionMessage scope body) body =
      (sessionMessage scope body).diagnostics := by
  simp only [sessionMessage, carriedMessage]
  split
  · rfl
  · cases scope.nested .bare body with
    | none =>
        rfl
    | some outcome =>
        rfl

end Decoders

/-! ## Passing a container -/

/-- The containers of session messages, and no other elements, may be left ciphered. -/
def Catalogue.CiphersSessions (catalogue : Catalogue) : Prop :=
  ∀ entry ∈ catalogue,
    (OctetDecoder.leavesCiphered entry.decoder.decodeOctets = true ↔
      entry.label = "ESM message container") ∧
      (entry.label = "ESM message container" → entry.IsContainer)

/-- The walk passes the one container of a session message. -/
structure Catalogue.PassesSession
    (catalogue : Catalogue)
    (scope : Scope)
    (window : Window)
    (before : Catalogue)
    (entry : ElementSpec)
    (behind : Catalogue)
    (pieces : List Piece)
    (here : Scope)
    (cursor body after : Window) : Prop
    extends
      Catalogue.Passes catalogue scope window before entry behind pieces here cursor body after
    where
  label_eq : entry.label = "ESM message container"
  isContainer : entry.IsContainer
  decode_eq : entry.decoder.decodeOctets = sessionMessage
  others : ∀ other ∈ before ++ behind, other.label ≠ "ESM message container"

/-- Nothing but the type of a container is announced on the way. -/
theorem Visits.scope_eq
    {scope lastScope : Scope}
    {window cursor : Window}
    {entries : Catalogue}
    {pieces : List Piece}
    (visits : Visits scope window entries pieces lastScope cursor) :
    lastScope = { scope with containerType := lastScope.containerType } := by
  induction visits with
  | nil =>
      rfl
  | absent _ _ inductionHypothesis =>
      exact inductionHypothesis
  | half _ _ inductionHypothesis =>
      exact inductionHypothesis
  | body _ _ inductionHypothesis =>
      exact inductionHypothesis

/-- What the container holds is read as it would be in front of the first entry. -/
theorem Visits.sessionMessage_eq
    {scope lastScope : Scope}
    {window cursor : Window}
    {entries : Catalogue}
    {pieces : List Piece}
    (visits : Visits scope window entries pieces lastScope cursor)
    (body : Window) :
    sessionMessage lastScope body =
      { sessionMessage scope body with containerType := lastScope.containerType } := by
  rw [visits.scope_eq]
  exact sessionMessage_announced scope lastScope.containerType body

/-- A container takes whole octets. -/
theorem ElementSpec.IsContainer.not_isHalf
    {entry : ElementSpec}
    (isContainer : entry.IsContainer) :
    ¬ entry.format.IsHalf := by
  simp only [IsContainer, containers, List.mem_cons, List.not_mem_nil, or_false,
    Prod.mk.injEq] at isContainer
  rcases isContainer with ⟨-, format_eq⟩ | ⟨-, format_eq⟩ | ⟨-, format_eq⟩ <;>
    rw [format_eq] <;> exact id

/-- An element that stands for a container is one that the walk passes. -/
theorem Catalogue.exists_passesSession
    {catalogue : Catalogue}
    {scope : Scope}
    {window : Window}
    {element : Element}
    (regular : catalogue.Regular)
    (labels : (catalogue.map ElementSpec.label).Nodup)
    (ciphers : catalogue.CiphersSessions)
    (member : element ∈ (Catalogue.walk scope window catalogue).elements)
    (label_eq : element.label = "ESM message container") :
    ∃ before entry behind pieces here cursor body after,
      catalogue.PassesSession scope window before entry behind pieces here cursor body after ∧
        element =
          entry.element ⟨cursor.position, after.position⟩
            (ElementSpec.valueOf (sessionMessage scope body) body) := by
  have whole (entry : ElementSpec) (member : entry ∈ catalogue)
      (same : entry.label = element.label) :
      ¬ entry.format.IsHalf :=
    ((ciphers entry member).2 (same.trans label_eq)).not_isHalf
  obtain ⟨before, entry, behind, pieces, here, cursor, body, after, passes, element_eq⟩ :=
    Catalogue.exists_passes whole member
  have entryMember : entry ∈ catalogue := by
    rw [passes.catalogue_eq]
    simp
  have entry_label : entry.label = "ESM message container" := by
    rw [element_eq] at label_eq
    exact label_eq
  have decode_eq :=
    (regular entry entryMember).eq_sessionMessage ((ciphers entry entryMember).1.mpr entry_label)
  rw [decode_eq, passes.visits.sessionMessage_eq] at element_eq
  refine ⟨before, entry, behind, pieces, here, cursor, body, after, ⟨passes, entry_label,
    (ciphers entry entryMember).2 entry_label, decode_eq, fun other otherMember same => ?_⟩,
    element_eq⟩
  rw [passes.catalogue_eq, List.map_append, List.map_cons, List.nodup_middle, List.nodup_cons,
    ← List.map_append] at labels
  apply labels.1
  rw [entry_label, ← same]
  exact List.mem_map_of_mem otherMember

/-- The ranges of octets that could not be deciphered. -/
def undeciphered (diagnostics : List Diagnostic) : List Span :=
  (diagnostics.filter fun diagnostic => diagnostic.kind = .decipherFailed).map Diagnostic.span

theorem undeciphered_append
    (first second : List Diagnostic) :
    undeciphered (first ++ second) = undeciphered first ++ undeciphered second := by
  simp [undeciphered]

theorem undeciphered_eq_nil
    {diagnostics : List Diagnostic}
    (none : ∀ diagnostic ∈ diagnostics, diagnostic.kind ≠ .decipherFailed) :
    undeciphered diagnostics = [] := by
  rw [undeciphered, List.map_eq_nil_iff, List.filter_eq_nil_iff]
  simpa using none

/-- The element, with other octets left ciphered if it is the container of a session message. -/
def Element.withCiphered (octets : List UInt8) (element : Element) : Element :=
  if element.label = "ESM message container" then
    { element with value := .ciphered octets }
  else
    element

theorem map_withCiphered_of_ne
    {elements : List Element}
    {octets : List UInt8}
    (others : ∀ element ∈ elements, element.label ≠ "ESM message container") :
    elements.map (Element.withCiphered octets) = elements := by
  refine (List.map_congr_left fun element member => ?_).trans (List.map_id elements)
  exact if_neg (others element member)

/-- The label of an element is that of an entry. -/
theorem Catalogue.walk_label_mem
    {catalogue : Catalogue}
    {scope : Scope}
    {window : Window}
    {element : Element}
    (member : element ∈ (Catalogue.walk scope window catalogue).elements) :
    element.label ∈ catalogue.map ElementSpec.label := by
  obtain ⟨visited, unvisited, pieces, cursor, ending, rfl, course⟩ :=
    Catalogue.exists_course scope window catalogue
  rw [course.elements_eq] at member
  rw [List.map_append]
  exact List.mem_append_left _ (course.label_mem member)

theorem Visits.label_mem
    {scope lastScope : Scope}
    {window cursor : Window}
    {entries : Catalogue}
    {pieces : List Piece}
    (visits : Visits scope window entries pieces lastScope cursor) :
    ∀ piece ∈ pieces, piece.element.label ∈ entries.map ElementSpec.label := by
  intro piece member
  cases visits.cutFrom piece member with
  | half entryMember =>
      exact List.mem_map_of_mem entryMember
  | body entryMember _ _ =>
      exact List.mem_map_of_mem entryMember

namespace Catalogue.PassesSession

variable {catalogue before behind : Catalogue} {scope here : Scope} {entry : ElementSpec}
  {pieces : List Piece} {window cursor body after : Window}

theorem walk_session
    (passes : catalogue.PassesSession scope window before entry behind pieces here cursor body
      after) :
    Catalogue.walk scope window catalogue =
      ((Catalogue.walk here after behind).prepend
        (entry.element ⟨cursor.position, after.position⟩
          (ElementSpec.valueOf (sessionMessage scope body) body))
        (sessionMessage scope body).diagnostics).behind pieces := by
  have reading_eq := passes.visits.sessionMessage_eq body
  have scope_eq : entry.scopeBehind here body = here := by
    rw [ElementSpec.scopeBehind, passes.decode_eq, reading_eq]
  rw [passes.walk_eq, scope_eq, passes.decode_eq, diagnosticsOf_sessionMessage, reading_eq]
  rfl

/-- Nothing in front of the container and nothing behind it is left ciphered. -/
theorem others_isClear
    (passes : catalogue.PassesSession scope window before entry behind pieces here cursor body
      after)
    (regular : catalogue.Regular)
    (ciphers : catalogue.CiphersSessions) :
    (∀ piece ∈ pieces, piece.IsClear) ∧ (Catalogue.walk here after behind).IsClear := by
  have leavesNone (other : ElementSpec) (member : other ∈ before ++ behind) :
      OctetDecoder.leavesCiphered other.decoder.decodeOctets = false := by
    have otherMember : other ∈ catalogue := by
      rw [passes.catalogue_eq]
      exact List.mem_append.mpr
        ((List.mem_append.mp member).imp_right (List.mem_cons_of_mem entry))
    rw [← Bool.not_eq_true, (ciphers other otherMember).1]
    exact passes.others other member
  have regularOther (other : ElementSpec) (member : other ∈ before ++ behind) :
      other.decoder.Regular := by
    apply regular
    rw [passes.catalogue_eq]
    exact List.mem_append.mpr
      ((List.mem_append.mp member).imp_right (List.mem_cons_of_mem entry))
  constructor
  · exact passes.visits.isClear
      (fun other member => regularOther other (List.mem_append_left _ member))
      (.inl fun other member => leavesNone other (List.mem_append_left _ member))
  · exact Catalogue.walk_isClear
      (fun other member => regularOther other (List.mem_append_right _ member))
      (.inl fun other member => leavesNone other (List.mem_append_right _ member)) after

/-- What the walk leaves ciphered is what the container does. -/
theorem walk_undeciphered
    (passes : catalogue.PassesSession scope window before entry behind pieces here cursor body
      after)
    (regular : catalogue.Regular)
    (ciphers : catalogue.CiphersSessions) :
    undeciphered (Catalogue.walk scope window catalogue).diagnostics =
      undeciphered (sessionMessage scope body).diagnostics := by
  obtain ⟨piecesClear, behindClear⟩ := passes.others_isClear regular ciphers
  have inFront : undeciphered (pieces.flatMap Piece.diagnostics) = [] := by
    refine undeciphered_eq_nil fun diagnostic member => ?_
    obtain ⟨piece, pieceMember, own⟩ := List.mem_flatMap.mp member
    exact (piecesClear piece pieceMember).reports diagnostic own
  rw [passes.walk_session]
  simp only [Walk.behind, Walk.prepend, undeciphered_append, inFront,
    undeciphered_eq_nil behindClear.reports, List.nil_append, List.append_nil]

/-- Neither in front of the container nor behind it there is another one. -/
theorem others_label
    (passes : catalogue.PassesSession scope window before entry behind pieces here cursor body
      after) :
    (∀ element ∈ pieces.map Piece.element, element.label ≠ "ESM message container") ∧
      ∀ element ∈ (Catalogue.walk here after behind).elements,
        element.label ≠ "ESM message container" := by
  constructor
  · intro element member label_eq
    obtain ⟨piece, pieceMember, rfl⟩ := List.mem_map.mp member
    obtain ⟨other, otherMember, same⟩ :=
      List.mem_map.mp (passes.visits.label_mem piece pieceMember)
    exact passes.others other (List.mem_append_left _ otherMember) (same.trans label_eq)
  · intro element member label_eq
    obtain ⟨other, otherMember, same⟩ := List.mem_map.mp (Catalogue.walk_label_mem member)
    exact passes.others other (List.mem_append_right _ otherMember) (same.trans label_eq)

/-- Unreadable octets decide nothing but the value of their container. -/
theorem walk_replaced
    {octets : List UInt8}
    (passes : catalogue.PassesSession scope window before entry behind pieces here cursor body
      after)
    (isPartial : scope.partiallyCiphered = true)
    (unreadable : IsUnreadable body.rest)
    (otherUnreadable : IsUnreadable octets)
    (length_eq : octets.length = body.remaining) :
    let near := Catalogue.walk scope window catalogue
    let far := Catalogue.walk scope (window.replaced body.remainingSpan octets) catalogue
    far.elements = near.elements.map (Element.withCiphered octets) ∧
      far.diagnostics = near.diagnostics := by
  have takesOctets : entry.format.headerLength ≠ 0 := by
    rw [passes.isContainer.headerLength_eq]
    omega
  obtain ⟨farCursor, position_eq, farPasses⟩ := passes.replaced takesOctets length_eq
  have farPasses :
      catalogue.PassesSession scope (window.replaced body.remainingSpan octets) before entry
        behind pieces here farCursor (.ofOctets octets body.position) after :=
    ⟨farPasses, passes.label_eq, passes.isContainer, passes.decode_eq, passes.others⟩
  have span_eq : (Window.ofOctets octets body.position).remainingSpan = body.remainingSpan := by
    simp [Window.remainingSpan, Window.stop, Window.remaining, length_eq]
  have container (value : Value) :
      Element.withCiphered octets (entry.element ⟨cursor.position, after.position⟩ value) =
        entry.element ⟨cursor.position, after.position⟩ (.ciphered octets) :=
    if_pos passes.label_eq
  obtain ⟨inFront, further⟩ := passes.others_label
  dsimp only
  rw [passes.walk_session, farPasses.walk_session,
    sessionMessage_of_unreadable isPartial unreadable,
    sessionMessage_of_unreadable isPartial otherUnreadable, position_eq, span_eq]
  constructor
  · simp only [Walk.behind, Walk.prepend, List.map_append, List.map_cons, container,
      map_withCiphered_of_ne further, map_withCiphered_of_ne inFront]
    rfl
  · rfl

end Catalogue.PassesSession

end LteNas
