import LteNas.Proofs.Element.Embedding

namespace LteNas

/-!
# Values that may be left ciphered

A decoder leaves octets ciphered only if it decodes session messages, and only
inside a partially ciphered message.  Whatever else it makes of its octets is
clear: a plain value, or a message that is entered.
-/

/-- The value is plain, or a message that was entered. -/
def Value.IsClear (value : Value) : Prop :=
  value.IsPlain ∨ ∃ carried, value = .message carried

/-- The value of the reading is clear, and it reports no octets that could not be deciphered. -/
structure Reading.IsClear (reading : Reading) : Prop where
  value {value : Value} {after : Window} :
    reading.outcome = .ok (value, after) → value.IsClear
  reports : ∀ diagnostic ∈ reading.diagnostics, diagnostic.kind ≠ .decipherFailed

theorem DiagnosticKind.ConcernsValue.ne_decipherFailed
    {kind : DiagnosticKind}
    (concerns : kind.ConcernsValue) :
    kind ≠ .decipherFailed := by
  rintro rfl
  exact concerns

namespace Reading.IsClear

variable {reading : Reading}

theorem of_plain
    {value : Value}
    {after : Window}
    {containerType : Option UInt8}
    (plain : value.IsPlain) :
    Reading.IsClear ⟨.ok (value, after), [], containerType⟩ where
  value := by
    rintro _ _ ⟨⟩
    exact .inl plain
  reports := by
    simp

theorem valueOf_isClear
    (clear : reading.IsClear)
    (body : Window) :
    (ElementSpec.valueOf reading body).IsClear := by
  rw [ElementSpec.valueOf]
  split
  · rename_i outcome_eq
    exact clear.value outcome_eq
  · exact .inl trivial

theorem diagnosticsOf_isClear
    (clear : reading.IsClear)
    (entry : ElementSpec)
    (body : Window) :
    ∀ diagnostic ∈ entry.diagnosticsOf reading body, diagnostic.kind ≠ .decipherFailed := by
  rw [ElementSpec.diagnosticsOf]
  split
  · exact clear.reports
  · rename_i fault _
    refine List.forall_mem_append.mpr ⟨clear.reports, ?_⟩
    simpa using (fault.diagnosis_concernsValue entry.label).ne_decipherFailed

end Reading.IsClear

/-! ## Decoders -/

/-- Inside a partially ciphered message the decoder leaves an empty value ciphered. -/
def OctetDecoder.leavesCiphered (decode : OctetDecoder) : Bool :=
  match (decode { Scope.unlimited with partiallyCiphered := true } (.ofOctets [] 0)).outcome with
  | .ok (.ciphered _, _) => true
  | _ => false

section Decoders

variable {scope : Scope} {body : Window}

open ElementValue

theorem ElementValue.carriedMessage_isClear
    (carriage : Carriage)
    (scope : Scope)
    (body : Window) :
    (carriedMessage carriage scope body).IsClear := by
  rw [carriedMessage]
  split
  · refine ⟨?_, by simp⟩
    rintro _ _ ⟨⟩
    exact .inr ⟨_, rfl⟩
  · refine ⟨?_, by simp⟩
    rintro _ _ ⟨⟩
    exact .inl trivial

theorem Reader.reporting_isClear
    {reader : Reader (Value × List Diagnostic)}
    (isLocal : ∀ site : Site, reader.Local site (site.Reporting Value.IsPlain) reader)
    (scope : Scope)
    (body : Window) :
    (reader.reporting scope body).IsClear := by
  have agree := isLocal _ body body (Site.sees_self body)
  rw [Reader.reporting]
  generalize reader body = outcome at agree ⊢
  cases agree with
  | error =>
      exact ⟨by simp, by simp⟩
  | ok reporting _ =>
      refine ⟨?_, fun diagnostic member => ?_⟩
      · rintro _ _ ⟨⟩
        exact .inl reporting.holds
      · exact (reporting.reported.concerns _ member).ne_decipherFailed

/-- A regular decoder decodes session messages, or all that it reads is clear. -/
theorem OctetDecoder.Regular.session_or_clear
    {decode : OctetDecoder}
    (regular : OctetDecoder.Regular decode) :
    decode = sessionMessage ∨ ∀ scope body, Reading.IsClear (decode scope body) := by
  induction regular with
  | reading isLocal =>
      exact .inr (Reader.reporting_isClear isLocal)
  | carried carriage =>
      exact .inr (carriedMessage_isClear carriage)
  | session =>
      exact .inl rfl
  | containerType =>
      refine .inr fun scope body => ?_
      rw [genericContainerType]
      split
      · exact ⟨by simp, by simp⟩
      · exact .of_plain trivial
  | container =>
      refine .inr fun scope body => ?_
      rw [genericContainer]
      split
      · exact .of_plain trivial
      · exact .of_plain trivial
  | userData =>
      refine .inr fun scope body => ?_
      rw [ElementValue.userData]
      split
      · exact .of_plain trivial
      · exact .of_plain trivial

namespace Decoder.Regular

variable {decoder : Decoder}

theorem session_or_clear
    (regular : decoder.Regular) :
    decoder.decodeOctets = sessionMessage ∨
      ∀ scope body, (decoder.decodeOctets scope body).IsClear := by
  cases decoder with
  | nibble decode =>
      have steady (site : Site) :
          Reader.Steady site Value.IsPlain (do return decode (lowNibble (← Reader.octet))) :=
        Reader.octet_steady.bind fun octet _ => .pure ⟨rfl, regular _⟩
      exact OctetDecoder.Regular.session_or_clear (.of_steady steady)
  | octets decode =>
      exact OctetDecoder.Regular.session_or_clear regular

/-- A regular decoder that can leave octets ciphered is the one of session messages. -/
theorem eq_sessionMessage
    (regular : decoder.Regular)
    (leaves : OctetDecoder.leavesCiphered decoder.decodeOctets = true) :
    decoder.decodeOctets = sessionMessage := by
  refine regular.session_or_clear.resolve_right fun clear => ?_
  rw [OctetDecoder.leavesCiphered] at leaves
  split at leaves
  · rename_i outcome_eq
    rcases (clear _ _).value outcome_eq with plain | ⟨carried, value_eq⟩
    · exact plain
    · cases value_eq
  · cases leaves

/-- What a regular decoder reads is clear if it leaves nothing ciphered, or nothing may be. -/
theorem isClear
    (regular : decoder.Regular)
    (clear : OctetDecoder.leavesCiphered decoder.decodeOctets = false ∨
      scope.partiallyCiphered = false) :
    (decoder.decodeOctets scope body).IsClear := by
  rcases regular.session_or_clear with session | allClear
  · rw [session] at clear ⊢
    rcases clear with leavesNone | whole
    · cases leavesNone
    · rw [sessionMessage, whole]
      exact carriedMessage_isClear .bare scope body
  · exact allClear scope body

end Decoder.Regular

end Decoders

/-! ## Walks -/

/-- The value of the piece is clear, and it reports no octets that could not be deciphered. -/
structure Piece.IsClear (piece : Piece) : Prop where
  value : piece.element.value.IsClear
  reports : ∀ diagnostic ∈ piece.diagnostics, diagnostic.kind ≠ .decipherFailed

section Clearing

variable {scope lastScope : Scope} {window cursor : Window} {entries : Catalogue}

/-- Nothing can be left ciphered: no entry leaves anything, or the message is not partially so. -/
def Catalogue.Clears (entries : Catalogue) (scope : Scope) : Prop :=
  (∀ entry ∈ entries, OctetDecoder.leavesCiphered entry.decoder.decodeOctets = false) ∨
    scope.partiallyCiphered = false

theorem Piece.CutFrom.isClear
    {piece : Piece}
    (cutFrom : piece.CutFrom scope window entries)
    (regular : entries.Regular)
    (clears : entries.Clears scope) :
    piece.IsClear := by
  cases cutFrom with
  | @half entry start nibble member =>
      refine ⟨.inl ?_, by simp [ElementSpec.halfPiece]⟩
      exact (regular entry member).decodeNibble_isPlain nibble
  | @body entry cursor body after containerType member reaches framing =>
      have read :
          (entry.decoder.decodeOctets { scope with containerType } body).IsClear :=
        (regular entry member).isClear (clears.imp_left fun leavesNone => leavesNone entry member)
      exact ⟨read.valueOf_isClear body, read.diagnosticsOf_isClear entry body⟩

theorem Visits.isClear
    {pieces : List Piece}
    (visits : Visits scope window entries pieces lastScope cursor)
    (regular : entries.Regular)
    (clears : entries.Clears scope) :
    ∀ piece ∈ pieces, piece.IsClear :=
  fun piece member => (visits.cutFrom piece member).isClear regular clears

end Clearing

theorem Ending.ne_decipherFailed
    {ending : Ending}
    {cursor stop : Nat} :
    ∀ diagnostic ∈ ending.diagnostics cursor stop, diagnostic.kind ≠ .decipherFailed := by
  cases ending <;> simp [Ending.diagnostics]

/-- The elements of the walk are clear, and it reports no octets that could not be deciphered. -/
structure Walk.IsClear (walk : Walk) : Prop where
  values : ∀ element ∈ walk.elements, element.value.IsClear
  reports : ∀ diagnostic ∈ walk.diagnostics, diagnostic.kind ≠ .decipherFailed

theorem Catalogue.walk_isClear
    {catalogue : Catalogue}
    {scope : Scope}
    (regular : catalogue.Regular)
    (clears : catalogue.Clears scope)
    (window : Window) :
    (Catalogue.walk scope window catalogue).IsClear := by
  obtain ⟨visited, unvisited, pieces, cursor, ending, rfl, course⟩ :=
    Catalogue.exists_course scope window catalogue
  obtain ⟨⟨lastScope, visits⟩, -, walk_eq⟩ := course
  have pieceClear :=
    visits.isClear
      (fun entry member => regular entry (List.mem_append_left _ member))
      (clears.imp_left fun leavesNone entry member =>
        leavesNone entry (List.mem_append_left _ member))
  rw [walk_eq]
  constructor
  · intro element member
    simp only [Walk.behind, Ending.walk, List.append_nil, List.mem_map] at member
    obtain ⟨piece, pieceMember, rfl⟩ := member
    exact (pieceClear piece pieceMember).value
  · intro diagnostic reported
    rcases List.mem_append.mp reported with inPieces | inEnding
    · obtain ⟨piece, pieceMember, own⟩ := List.mem_flatMap.mp inPieces
      exact (pieceClear piece pieceMember).reports diagnostic own
    · exact Ending.ne_decipherFailed diagnostic inEnding

end LteNas
