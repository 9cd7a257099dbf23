import LteNas.Proofs.Element.Regular

namespace LteNas

/-!
# The grammar of a catalogue

A catalogue is a grammar.  A body is spelled by a catalogue when it is one
encoding of every mandatory entry and of some optional ones, in catalogue order.
Where the formats of a catalogue keep out of each other's way, a body is spelled
in at most one way, and the walk finds it.
-/

/-! ## Members -/

/-- What an element holds. -/
inductive Content where
  /-- Half of an octet. -/
  | half (nibble : UInt8)
  /-- The octets of a value. -/
  | value (octets : List UInt8)
  deriving Repr, DecidableEq

/-- An entry and what its element holds. -/
structure Member where
  entry : ElementSpec
  content : Content

/-- One encoding of an element that stands in octets of its own. -/
def WireFormat.Encodes (format : WireFormat) (octets : List UInt8) : Content → Prop
  | .half nibble =>
      ∃ octet,
        octets = [octet] ∧ format = .taggedHalf (highNibble octet) ∧ nibble = lowNibble octet
  | .value value =>
      format.Admits value.length ∧ octets = format.header value.length ++ value

/-- Octets are spelled by the entries of a catalogue, from which members come. -/
inductive Catalogue.Spells : Catalogue → List UInt8 → List Member → Prop where
  | nil :
      Spells [] [] []
  /-- An optional entry may be left out. -/
  | absent {entry : ElementSpec} {entries : Catalogue} {octets : List UInt8}
      {members : List Member}
      (optional : ¬ entry.format.IsMandatory)
      (spells : Spells entries octets members) :
      Spells (entry :: entries) octets members
  /-- A low and a high half share an octet. -/
  | pair {low high : ElementSpec} {entries : Catalogue} {octets : List UInt8}
      {members : List Member} {octet : UInt8}
      (lowFormat : low.format = .lowHalf)
      (highFormat : high.format = .highHalf)
      (spells : Spells entries octets members) :
      Spells (low :: high :: entries) (octet :: octets)
        (⟨low, .half (lowNibble octet)⟩ :: ⟨high, .half (highNibble octet)⟩ :: members)
  /-- An encoding of the entry comes first. -/
  | present {entry : ElementSpec} {entries : Catalogue} {encoding octets : List UInt8}
      {members : List Member} {content : Content}
      (encodes : entry.format.Encodes encoding content)
      (spells : Spells entries octets members) :
      Spells (entry :: entries) (encoding ++ octets) (⟨entry, content⟩ :: members)

/--
The elements of members that follow each other from a start on.  An element
covers its tag, its length and its value; where the decoder of the entry fails,
its value is the octets themselves.
-/
def memberElements (scope : Scope) (start : Nat) : List Member → List Element
  | [] =>
      []
  | ⟨entry, .half nibble⟩ :: members =>
      ⟨entry.format.tag?, entry.label, ⟨start, start + 1⟩, entry.decoder.decodeNibble nibble⟩ ::
        memberElements scope (start + entry.format.halfLength) members
  | ⟨entry, .value octets⟩ :: members =>
      let valueStart := start + entry.format.headerLength
      let stop := valueStart + octets.length
      let reading := entry.decoder.decodeOctets scope (.ofOctets octets valueStart)
      let value :=
        match reading.outcome with
        | .ok (value, _) => value
        | .error _ => .octets octets
      ⟨entry.format.tag?, entry.label, ⟨start, stop⟩, value⟩ ::
        memberElements { scope with containerType := reading.containerType } stop members

/-- What the decoders of members that follow each other from a start on report. -/
def memberDiagnostics (scope : Scope) (start : Nat) : List Member → List Diagnostic
  | [] =>
      []
  | ⟨entry, .half _⟩ :: members =>
      memberDiagnostics scope (start + entry.format.halfLength) members
  | ⟨entry, .value octets⟩ :: members =>
      let body := Window.ofOctets octets (start + entry.format.headerLength)
      let reading := entry.decoder.decodeOctets scope body
      entry.diagnosticsOf reading body ++
        memberDiagnostics { scope with containerType := reading.containerType }
          (start + entry.format.headerLength + octets.length) members

/-! ## Unambiguous catalogues -/

/-- No octet may start elements of both formats. -/
def WireFormat.Apart (first second : WireFormat) : Prop :=
  ∀ octet, first.accepts octet = true → second.accepts octet = false

/--
Halves come in pairs, a mandatory value takes an octet at least, and behind an
optional entry there are only optional ones that start with other octets.
-/
inductive Catalogue.Unambiguous : Catalogue → Prop where
  | nil :
      Unambiguous []
  | pair {low high : ElementSpec} {entries : Catalogue}
      (lowFormat : low.format = .lowHalf)
      (highFormat : high.format = .highHalf)
      (others : Unambiguous entries) :
      Unambiguous (low :: high :: entries)
  | mandatory {entry : ElementSpec} {entries : Catalogue}
      (mandatory : entry.format.IsMandatory)
      (whole : ¬ entry.format.IsHalf)
      (takesOctets : entry.format ≠ .fixed 0)
      (others : Unambiguous entries) :
      Unambiguous (entry :: entries)
  | optional {entry : ElementSpec} {entries : Catalogue}
      (optional : ¬ entry.format.IsMandatory)
      (apart : ∀ later ∈ entries,
        ¬ later.format.IsMandatory ∧ entry.format.Apart later.format)
      (others : Unambiguous entries) :
      Unambiguous (entry :: entries)

namespace WireFormat

variable {format : WireFormat} {window : Window} {encoding octets : List UInt8}
  {content : Content}

/-- The number of octets of an encoding. -/
def encodedLength (format : WireFormat) : Content → Nat
  | .half _ => 1
  | .value value => format.headerLength + value.length

/-- The outcome of a cut that takes an encoding. -/
def framed (format : WireFormat) (window : Window) (content : Content) : Framing :=
  let after := window.advance (format.encodedLength content)
  match content with
  | .half nibble => .half nibble after
  | .value value => .body (.ofOctets value (window.position + format.headerLength)) after

theorem framed_injective
    {other : Content}
    (same : format.framed window content = format.framed window other) :
    content = other := by
  cases content <;> cases other <;> simp_all [framed, Window.ofOctets]

theorem Encodes.length_eq
    (encodes : format.Encodes encoding content) :
    encoding.length = format.encodedLength content := by
  cases content with
  | half nibble =>
      obtain ⟨octet, rfl, -, -⟩ := encodes
      rfl
  | value value =>
      obtain ⟨-, rfl⟩ := encodes
      simp [encodedLength]

/-- An encoding takes an octet at least. -/
theorem Encodes.ne_nil
    (encodes : format.Encodes encoding content)
    (takesOctets : format ≠ .fixed 0) :
    encoding ≠ [] := by
  intro empty
  have length_eq := encodes.length_eq
  rw [empty, List.length_nil] at length_eq
  cases content with
  | half nibble =>
      cases length_eq
  | value value =>
      obtain ⟨admitted, -⟩ := encodes
      have noValue : value.length = 0 := by
        rw [encodedLength] at length_eq
        omega
      rw [noValue] at admitted
      cases format with
      | fixed width =>
          apply takesOctets
          rw [show width = 0 from admitted.symm]
      | lowHalf | highHalf | taggedHalf _ =>
          exact admitted.elim
      | sized | sizedExtended | tagged _ _ | taggedSized _ | taggedSizedExtended _ =>
          simp only [encodedLength, headerLength] at length_eq
          omega

/-- Octets that start with an encoding are cut behind it. -/
theorem Encodes.frame_eq
    (encodes : format.Encodes encoding content)
    (takesOctets : format ≠ .fixed 0)
    (shape : window.rest = encoding ++ octets) :
    format.frame window = format.framed window content ∧
      (window.advance (format.encodedLength content)).rest = octets := by
  have after_rest : (window.advance (format.encodedLength content)).rest = octets := by
    rw [Window.advance_rest, shape, ← encodes.length_eq, List.drop_left]
  refine ⟨?_, after_rest⟩
  cases content with
  | half nibble =>
      obtain ⟨octet, rfl, rfl, rfl⟩ := encodes
      exact frame_of_isHalf shape (by simp [accepts]) trivial
  | value value =>
      have more : window.rest ≠ [] := by
        rw [shape]
        exact List.append_ne_nil_of_left_ne_nil (encodes.ne_nil takesOctets) _
      obtain ⟨admitted, rfl⟩ := encodes
      refine frame_of_cuts more ⟨value, admitted, ?_, rfl, rfl⟩
      rw [shape, ← after_rest]

/-- An optional format takes octets. -/
theorem ne_fixed_of_not_isMandatory
    (optional : ¬ format.IsMandatory) :
    format ≠ .fixed 0 := by
  rintro rfl
  exact optional rfl

theorem ne_lowHalf_of_not_isMandatory
    (optional : ¬ format.IsMandatory) :
    format ≠ .lowHalf := by
  rintro rfl
  exact optional rfl

theorem ne_lowHalf_of_not_isHalf
    (whole : ¬ format.IsHalf) :
    format ≠ .lowHalf := by
  rintro rfl
  exact whole trivial

/-- The first octet of an encoding is one that the format accepts. -/
theorem Encodes.accepts
    {first : UInt8}
    {others : List UInt8}
    (encodes : format.Encodes encoding content)
    (shape : first :: others = encoding ++ octets) :
    format.accepts first = true := by
  cases content with
  | half nibble =>
      obtain ⟨octet, rfl, rfl, -⟩ := encodes
      cases shape
      simp [WireFormat.accepts]
  | value value =>
      obtain ⟨admitted, rfl⟩ := encodes
      rw [List.append_assoc] at shape
      exact accepts_of_header admitted shape

/-- Halves that share an octet have no encoding of their own. -/
theorem Encodes.not_shared
    (encodes : format.Encodes encoding content) :
    format ≠ .lowHalf := by
  rintro rfl
  cases content with
  | half nibble =>
      obtain ⟨_, -, same, -⟩ := encodes
      cases same
  | value value =>
      exact encodes.1.elim

end WireFormat

namespace Catalogue

open WireFormat

variable {entry low high : ElementSpec} {entries : Catalogue} {octets : List UInt8}
  {members : List Member}

/-! ## What the first entry contributes -/

theorem spells_nil_iff :
    Spells [] octets members ↔ octets = [] ∧ members = [] := by
  constructor
  · rintro ⟨⟩
    exact ⟨rfl, rfl⟩
  · rintro ⟨rfl, rfl⟩
    exact .nil

theorem spells_pair_iff
    (lowFormat : low.format = .lowHalf)
    (highFormat : high.format = .highHalf) :
    Spells (low :: high :: entries) octets members ↔
      ∃ octet behind others,
        octets = octet :: behind ∧
          members =
            ⟨low, .half (lowNibble octet)⟩ :: ⟨high, .half (highNibble octet)⟩ :: others ∧
          Spells entries behind others := by
  constructor
  · intro spells
    cases spells with
    | absent optional =>
        rw [lowFormat] at optional
        exact (optional rfl).elim
    | pair _ _ spells =>
        exact ⟨_, _, _, rfl, rfl, spells⟩
    | present encodes =>
        exact (encodes.not_shared lowFormat).elim
  · rintro ⟨octet, behind, others, rfl, rfl, spells⟩
    exact .pair lowFormat highFormat spells

theorem spells_cons_iff
    (notLow : entry.format ≠ .lowHalf) :
    Spells (entry :: entries) octets members ↔
      (¬ entry.format.IsMandatory ∧ Spells entries octets members) ∨
        ∃ encoding content behind others,
          octets = encoding ++ behind ∧
            members = ⟨entry, content⟩ :: others ∧
            entry.format.Encodes encoding content ∧
            Spells entries behind others := by
  constructor
  · intro spells
    cases spells with
    | absent optional spells =>
        exact .inl ⟨optional, spells⟩
    | pair lowFormat =>
        exact (notLow lowFormat).elim
    | present encodes spells =>
        exact .inr ⟨_, _, _, _, rfl, rfl, encodes, spells⟩
  · rintro (⟨optional, spells⟩ | ⟨encoding, content, behind, others, rfl, rfl, encodes, spells⟩)
    · exact .absent optional spells
    · exact .present encodes spells

/-- What optional entries spell starts with an octet that one of them accepts. -/
theorem Spells.accepts_first
    {first : UInt8}
    (spells : Spells entries (first :: octets) members)
    (optional : ∀ entry ∈ entries, ¬ entry.format.IsMandatory) :
    ∃ entry ∈ entries, entry.format.accepts first = true := by
  generalize whole : first :: octets = spelled at spells
  induction spells with
  | nil =>
      cases whole
  | absent _ _ inductionHypothesis =>
      obtain ⟨entry, member, accepted⟩ :=
        inductionHypothesis (List.forall_mem_cons.mp optional).2 whole
      exact ⟨entry, List.mem_cons_of_mem _ member, accepted⟩
  | pair lowFormat =>
      refine (optional _ List.mem_cons_self ?_).elim
      rw [lowFormat]
      rfl
  | present encodes =>
      exact ⟨_, List.mem_cons_self, encodes.accepts whole⟩

/-- An entry that is left out does not accept what is spelled behind it. -/
theorem Spells.frame_absent
    {window : Window}
    (spells : Spells entries window.rest members)
    (optional : ¬ entry.format.IsMandatory)
    (apart : ∀ later ∈ entries,
      ¬ later.format.IsMandatory ∧ entry.format.Apart later.format) :
    entry.format.frame window = .absent := by
  cases shape : window.rest with
  | nil =>
      rw [frame_of_nil shape, if_neg optional]
  | cons first others =>
      apply frame_of_not_accepts shape
      rw [shape] at spells
      obtain ⟨later, member, accepted⟩ :=
        spells.accepts_first fun later member => (apart later member).1
      by_contra accepts
      rw [Bool.not_eq_false] at accepts
      rw [(apart later member).2 first accepts] at accepted
      cases accepted

/-- Two encodings of an entry in front of the same octets are the same. -/
theorem encoding_unique
    {encoding otherEncoding behind otherBehind : List UInt8}
    {content other : Content}
    (takesOctets : entry.format ≠ .fixed 0)
    (first : entry.format.Encodes encoding content)
    (second : entry.format.Encodes otherEncoding other)
    (same : encoding ++ behind = otherEncoding ++ otherBehind) :
    content = other ∧ behind = otherBehind := by
  let window := Window.ofOctets (encoding ++ behind) 0
  obtain ⟨firstFrame, firstRest⟩ :=
    first.frame_eq takesOctets (show window.rest = encoding ++ behind from rfl)
  obtain ⟨secondFrame, secondRest⟩ :=
    second.frame_eq takesOctets (show window.rest = otherEncoding ++ otherBehind from same)
  have contents := framed_injective (firstFrame.symm.trans secondFrame)
  refine ⟨contents, ?_⟩
  rw [← firstRest, ← secondRest, contents]

/-- What is spelled behind an entry that is left out is no encoding of it. -/
theorem Spells.not_encoded
    {encoding behind : List UInt8}
    {content : Content}
    (spells : Spells entries octets members)
    (optional : ¬ entry.format.IsMandatory)
    (apart : ∀ later ∈ entries,
      ¬ later.format.IsMandatory ∧ entry.format.Apart later.format)
    (encodes : entry.format.Encodes encoding content) :
    octets ≠ encoding ++ behind := by
  intro shape
  let window := Window.ofOctets octets 0
  have absent := frame_absent (show Spells entries window.rest members from spells) optional apart
  have present :=
    (encodes.frame_eq (ne_fixed_of_not_isMandatory optional)
      (show window.rest = encoding ++ behind from shape)).1
  rw [absent] at present
  cases content <;> cases present

/-- An unambiguous catalogue spells octets in at most one way. -/
theorem Spells.unique
    {others : List Member}
    (unambiguous : entries.Unambiguous)
    (first : Spells entries octets members)
    (second : Spells entries octets others) :
    members = others := by
  induction unambiguous generalizing octets members others with
  | nil =>
      rw [(spells_nil_iff.mp first).2, (spells_nil_iff.mp second).2]
  | pair lowFormat highFormat _ inductionHypothesis =>
      obtain ⟨_, _, _, rfl, rfl, firstBehind⟩ := (spells_pair_iff lowFormat highFormat).mp first
      obtain ⟨_, _, _, same, rfl, secondBehind⟩ :=
        (spells_pair_iff lowFormat highFormat).mp second
      cases same
      rw [inductionHypothesis firstBehind secondBehind]
  | mandatory mandatory whole takesOctets _ inductionHypothesis =>
      have notLow := ne_lowHalf_of_not_isHalf whole
      rcases (spells_cons_iff notLow).mp first with ⟨optional, -⟩ | firstPresent
      · exact (optional mandatory).elim
      rcases (spells_cons_iff notLow).mp second with ⟨optional, -⟩ | secondPresent
      · exact (optional mandatory).elim
      obtain ⟨_, _, _, _, rfl, rfl, firstEncodes, firstBehind⟩ := firstPresent
      obtain ⟨_, _, _, _, same, rfl, secondEncodes, secondBehind⟩ := secondPresent
      obtain ⟨rfl, rfl⟩ := encoding_unique takesOctets firstEncodes secondEncodes same
      rw [inductionHypothesis firstBehind secondBehind]
  | optional optional apart _ inductionHypothesis =>
      have notLow := ne_lowHalf_of_not_isMandatory optional
      rcases (spells_cons_iff notLow).mp first with ⟨-, firstAbsent⟩ | firstPresent
      · rcases (spells_cons_iff notLow).mp second with ⟨-, secondAbsent⟩ | secondPresent
        · exact inductionHypothesis firstAbsent secondAbsent
        · obtain ⟨_, _, _, _, shape, -, encodes, -⟩ := secondPresent
          exact (firstAbsent.not_encoded optional apart encodes shape).elim
      · obtain ⟨_, _, _, _, shape, rfl, firstEncodes, firstBehind⟩ := firstPresent
        rcases (spells_cons_iff notLow).mp second with ⟨-, secondAbsent⟩ | secondPresent
        · exact (secondAbsent.not_encoded optional apart firstEncodes shape).elim
        · obtain ⟨_, _, _, _, same, rfl, secondEncodes, secondBehind⟩ := secondPresent
          rw [shape] at same
          obtain ⟨rfl, rfl⟩ :=
            encoding_unique (ne_fixed_of_not_isMandatory optional) firstEncodes secondEncodes same
          rw [inductionHypothesis firstBehind secondBehind]

end Catalogue

/-! ## The walk and the grammar -/

namespace WireFormat

variable {format : WireFormat} {window body after : Window} {nibble : UInt8}

theorem frame_lowHalf
    {octet : UInt8}
    {octets : List UInt8}
    (shape : window.rest = octet :: octets) :
    lowHalf.frame window = .half (lowNibble octet) window := by
  simp [frame, Window.peek?, shape, WireFormat.accepts, tag?]

theorem frame_highHalf
    {octet : UInt8}
    {octets : List UInt8}
    (shape : window.rest = octet :: octets) :
    highHalf.frame window = .half (highNibble octet) (window.advance 1) := by
  simp [frame, Window.peek?, shape, WireFormat.accepts, tag?]

/-- Half an octet of an optional entry is an encoding of it. -/
theorem encodes_of_frame_half
    (optional : ¬ format.IsMandatory)
    (framing : format.frame window = .half nibble after) :
    ∃ encoding,
      window.rest = encoding ++ after.rest ∧ format.Encodes encoding (.half nibble) := by
  have tells := format.tells_frame window
  rw [framing] at tells
  obtain ⟨half, rfl, first, others, shape, accepted, rfl⟩ := tells
  cases format with
  | taggedHalf tag =>
      have tagged : highNibble first = tag := by
        simpa [accepts] using accepted
      refine ⟨[first], ?_, first, rfl, by rw [tagged], rfl⟩
      simp [shape, halfLength]
  | lowHalf | highHalf =>
      exact (optional rfl).elim
  | fixed _ | sized | sizedExtended | tagged _ _ | taggedSized _ | taggedSizedExtended _ =>
      exact half.elim

/-- A value that was cut off is encoded in front. -/
theorem encodes_of_frame_body
    (framing : format.frame window = .body body after) :
    ∃ encoding value,
      window.rest = encoding ++ after.rest ∧ format.Encodes encoding (.value value) := by
  have tells := format.tells_frame window
  rw [framing] at tells
  obtain ⟨-, value, admitted, shape, -, -⟩ := tells
  exact ⟨_, value, shape, admitted, rfl⟩

end WireFormat

/-- A mandatory half octet that was visited was there. -/
theorem Visits.half_of_isHalf
    {scope lastScope : Scope}
    {window cursor : Window}
    {entry : ElementSpec}
    {entries : Catalogue}
    {pieces : List Piece}
    (half : entry.format.IsHalf)
    (mandatory : entry.format.IsMandatory)
    (visits : Visits scope window (entry :: entries) pieces lastScope cursor) :
    window.rest ≠ [] ∧
      ∃ behind,
        Visits scope (window.advance entry.format.halfLength) entries behind lastScope cursor := by
  cases visits with
  | absent framing =>
      exact (WireFormat.not_isMandatory_of_frame_absent framing mandatory).elim
  | body framing =>
      exact (WireFormat.not_isHalf_of_frame_body framing half).elim
  | half framing visits =>
      have tells := entry.format.tells_frame window
      rw [framing] at tells
      obtain ⟨-, rfl, octet, others, shape, -, -⟩ := tells
      refine ⟨?_, _, visits⟩
      rw [shape]
      exact List.cons_ne_nil octet others

/-- Two halves that were visited share an octet. -/
theorem Visits.pair
    {scope lastScope : Scope}
    {window cursor : Window}
    {low high : ElementSpec}
    {entries : Catalogue}
    {pieces : List Piece}
    (lowFormat : low.format = .lowHalf)
    (highFormat : high.format = .highHalf)
    (visits : Visits scope window (low :: high :: entries) pieces lastScope cursor) :
    ∃ octet behind,
      window.rest = octet :: (window.advance 1).rest ∧
        Visits scope (window.advance 1) entries behind lastScope cursor := by
  have lowHalf : low.format.IsHalf ∧ low.format.IsMandatory := by
    rw [lowFormat]
    exact ⟨trivial, rfl⟩
  have highHalf : high.format.IsHalf ∧ high.format.IsMandatory := by
    rw [highFormat]
    exact ⟨trivial, rfl⟩
  obtain ⟨more, highPieces, highVisits⟩ := visits.half_of_isHalf lowHalf.1 lowHalf.2
  obtain ⟨-, behind, behindVisits⟩ := highVisits.half_of_isHalf highHalf.1 highHalf.2
  rw [lowFormat, highFormat, Window.advance_advance] at behindVisits
  obtain ⟨octet, others, shape⟩ := List.exists_cons_of_ne_nil more
  refine ⟨octet, behind, ?_, behindVisits⟩
  rw [Window.advance_rest, shape]
  rfl

/-- A walk that leaves no octet was over octets that the catalogue spells. -/
theorem Visits.spells
    {scope lastScope : Scope}
    {window cursor : Window}
    {entries : Catalogue}
    {pieces : List Piece}
    (unambiguous : entries.Unambiguous)
    (visits : Visits scope window entries pieces lastScope cursor)
    (finished : cursor.rest = []) :
    ∃ members, entries.Spells window.rest members := by
  induction unambiguous generalizing scope window pieces with
  | nil =>
      cases visits
      rw [finished]
      exact ⟨[], .nil⟩
  | pair lowFormat highFormat _ inductionHypothesis =>
      obtain ⟨octet, behind, shape, visits⟩ := visits.pair lowFormat highFormat
      obtain ⟨members, spells⟩ := inductionHypothesis visits
      rw [shape]
      exact ⟨_, .pair lowFormat highFormat spells⟩
  | mandatory mandatory whole _ _ inductionHypothesis =>
      cases visits with
      | absent framing =>
          exact (WireFormat.not_isMandatory_of_frame_absent framing mandatory).elim
      | half framing =>
          exact (whole (WireFormat.isHalf_of_frame_half framing)).elim
      | body framing visits =>
          obtain ⟨encoding, value, shape, encodes⟩ := WireFormat.encodes_of_frame_body framing
          obtain ⟨members, spells⟩ := inductionHypothesis visits
          rw [shape]
          exact ⟨_, .present encodes spells⟩
  | optional optional _ _ inductionHypothesis =>
      cases visits with
      | absent framing visits =>
          obtain ⟨members, spells⟩ := inductionHypothesis visits
          exact ⟨_, .absent optional spells⟩
      | half framing visits =>
          obtain ⟨encoding, shape, encodes⟩ :=
            WireFormat.encodes_of_frame_half optional framing
          obtain ⟨members, spells⟩ := inductionHypothesis visits
          rw [shape]
          exact ⟨_, .present encodes spells⟩
      | body framing visits =>
          obtain ⟨encoding, value, shape, encodes⟩ := WireFormat.encodes_of_frame_body framing
          obtain ⟨members, spells⟩ := inductionHypothesis visits
          rw [shape]
          exact ⟨_, .present encodes spells⟩

/-- Entries are visited to the last octet, and the elements are those of the members. -/
structure Visited
    (scope : Scope)
    (window : Window)
    (entries : Catalogue)
    (members : List Member)
    (pieces : List Piece)
    (lastScope : Scope)
    (cursor : Window) :
    Prop where
  visits : Visits scope window entries pieces lastScope cursor
  finished : cursor.rest = []
  elements_eq : pieces.map Piece.element = memberElements scope window.position members
  diagnostics_eq :
    pieces.flatMap Piece.diagnostics = memberDiagnostics scope window.position members

/-- An encoding in front of what is visited behind it. -/
theorem Visited.present
    {window : Window}
    {entry : ElementSpec}
    {entries : Catalogue}
    {members : List Member}
    {encoding octets : List UInt8}
    {content : Content}
    (scope : Scope)
    (encodes : entry.format.Encodes encoding content)
    (takesOctets : entry.format ≠ .fixed 0)
    (shape : window.rest = encoding ++ octets)
    (behind : ∀ scope (after : Window), after.rest = octets →
      ∃ pieces lastScope cursor, Visited scope after entries members pieces lastScope cursor) :
    ∃ pieces lastScope cursor,
      Visited scope window (entry :: entries) (⟨entry, content⟩ :: members)
        pieces lastScope cursor := by
  obtain ⟨framing, after_rest⟩ := encodes.frame_eq takesOctets shape
  cases content with
  | half nibble =>
      obtain ⟨pieces, lastScope, cursor, visited⟩ := behind scope _ after_rest
      obtain ⟨octet, -, tagged, -⟩ := encodes
      have step : entry.format.halfLength = 1 := by
        rw [tagged]
        rfl
      refine ⟨_, lastScope, cursor, .half framing visited.visits, visited.finished, ?_, ?_⟩
      · rw [List.map_cons, visited.elements_eq, memberElements, step, Window.advance_position]
        rfl
      · rw [List.flatMap_cons, visited.diagnostics_eq, memberDiagnostics, step,
          Window.advance_position]
        rfl
  | value value =>
      let body := Window.ofOctets value (window.position + entry.format.headerLength)
      obtain ⟨pieces, lastScope, cursor, visited⟩ :=
        behind (entry.scopeBehind scope body) _ after_rest
      refine ⟨_, lastScope, cursor, .body framing visited.visits, visited.finished, ?_, ?_⟩
      · rw [List.map_cons, visited.elements_eq, memberElements]
        simp only [Window.advance_position, WireFormat.encodedLength, Nat.add_assoc]
        rfl
      · rw [List.flatMap_cons, visited.diagnostics_eq, memberDiagnostics]
        simp only [Window.advance_position, WireFormat.encodedLength, Nat.add_assoc]
        rfl

/-- What a catalogue spells is visited to the last octet. -/
theorem Catalogue.Spells.visited
    {window : Window}
    {entries : Catalogue}
    {members : List Member}
    (scope : Scope)
    (unambiguous : entries.Unambiguous)
    (spells : entries.Spells window.rest members) :
    ∃ pieces lastScope cursor,
      Visited scope window entries members pieces lastScope cursor := by
  induction unambiguous generalizing scope window members with
  | nil =>
      obtain ⟨empty, rfl⟩ := Catalogue.spells_nil_iff.mp spells
      exact ⟨[], scope, window, .nil, empty, rfl, rfl⟩
  | @pair low high entries lowFormat highFormat _ inductionHypothesis =>
      obtain ⟨octet, others, members, shape, rfl, behind⟩ :=
        (Catalogue.spells_pair_iff lowFormat highFormat).mp spells
      have lowFraming : low.format.frame window = .half (lowNibble octet) window := by
        rw [lowFormat]
        exact WireFormat.frame_lowHalf shape
      have highFraming :
          high.format.frame window = .half (highNibble octet) (window.advance 1) := by
        rw [highFormat]
        exact WireFormat.frame_highHalf shape
      have after_rest : (window.advance 1).rest = others := by
        simp [shape]
      rw [← after_rest] at behind
      obtain ⟨pieces, lastScope, cursor, visited⟩ := inductionHypothesis scope behind
      refine ⟨_, lastScope, cursor, .half lowFraming (.half highFraming visited.visits),
        visited.finished, ?_, ?_⟩
      · simp only [List.map_cons, visited.elements_eq, memberElements, ElementSpec.halfPiece,
          ElementSpec.element, lowFormat, highFormat, WireFormat.halfLength,
          Window.advance_position, Nat.add_zero]
      · simp only [List.flatMap_cons, visited.diagnostics_eq, memberDiagnostics,
          ElementSpec.halfPiece, lowFormat, highFormat, WireFormat.halfLength,
          Window.advance_position, Nat.add_zero, List.nil_append]
  | mandatory mandatory whole takesOctets _ inductionHypothesis =>
      have notLow := WireFormat.ne_lowHalf_of_not_isHalf whole
      rcases (Catalogue.spells_cons_iff notLow).mp spells with ⟨optional, -⟩ | present
      · exact (optional mandatory).elim
      obtain ⟨encoding, content, octets, members, shape, rfl, encodes, behind⟩ := present
      refine Visited.present scope encodes takesOctets shape fun scope after after_rest => ?_
      rw [← after_rest] at behind
      exact inductionHypothesis scope behind
  | optional optional apart _ inductionHypothesis =>
      have notLow := WireFormat.ne_lowHalf_of_not_isMandatory optional
      have takesOctets := WireFormat.ne_fixed_of_not_isMandatory optional
      rcases (Catalogue.spells_cons_iff notLow).mp spells with ⟨-, absent⟩ | present
      · have framing := absent.frame_absent optional apart
        obtain ⟨pieces, lastScope, cursor, visited⟩ := inductionHypothesis scope absent
        exact ⟨pieces, lastScope, cursor, .absent framing visited.visits, visited.finished,
          visited.elements_eq, visited.diagnostics_eq⟩
      · obtain ⟨encoding, content, octets, members, shape, rfl, encodes, behind⟩ := present
        refine Visited.present scope encodes takesOctets shape fun scope after after_rest => ?_
        rw [← after_rest] at behind
        exact inductionHypothesis scope behind

/-- A walk over what a catalogue spells is the elements of its members and what they report. -/
theorem Catalogue.Spells.walk_eq
    {window : Window}
    {entries : Catalogue}
    {members : List Member}
    (scope : Scope)
    (unambiguous : entries.Unambiguous)
    (spells : entries.Spells window.rest members) :
    (Catalogue.walk scope window entries).elements =
        memberElements scope window.position members ∧
      (Catalogue.walk scope window entries).diagnostics =
        memberDiagnostics scope window.position members := by
  obtain ⟨pieces, lastScope, cursor, visited⟩ := spells.visited scope unambiguous
  have walk_eq := visited.visits.walk_append []
  rw [List.append_nil, Catalogue.walk, Walk.finish, Window.isEmpty, visited.finished] at walk_eq
  rw [walk_eq, ← visited.elements_eq, ← visited.diagnostics_eq]
  simp [Walk.behind]

/-! ## Clean walks -/

/-- Every entry was visited, and no octet was left. -/
def Walk.IsClean (walk : Walk) : Prop :=
  walk.flow = .done ∧ ∀ diagnostic ∈ walk.diagnostics, diagnostic.kind ≠ .extraneousData

/-- The diagnostics of an element concern the element. -/
theorem ElementSpec.diagnosticsOf_concern
    {entry : ElementSpec}
    (regular : entry.decoder.Regular)
    (scope : Scope)
    (body : Window) :
    ∀ diagnostic ∈ entry.diagnosticsOf (entry.decoder.decodeOctets scope body) body,
      diagnostic.kind.ConcernsElement := by
  have concerns := regular.concerns scope body
  rw [diagnosticsOf]
  split
  · exact concerns
  · rename_i fault _
    refine List.forall_mem_append.mpr ⟨concerns, ?_⟩
    simpa using (fault.diagnosis_concernsValue entry.label).concernsElement

/-- What the visited elements report concerns one of them. -/
theorem Visits.diagnostics_concern
    {scope lastScope : Scope}
    {window cursor : Window}
    {entries : Catalogue}
    {pieces : List Piece}
    (regular : entries.Regular)
    (visits : Visits scope window entries pieces lastScope cursor) :
    ∀ diagnostic ∈ pieces.flatMap Piece.diagnostics, diagnostic.kind.ConcernsElement := by
  induction visits with
  | nil =>
      simp
  | absent _ _ inductionHypothesis =>
      exact inductionHypothesis (Catalogue.regular_cons.mp regular).2
  | half _ _ inductionHypothesis =>
      rw [List.flatMap_cons]
      exact inductionHypothesis (Catalogue.regular_cons.mp regular).2
  | body _ _ inductionHypothesis =>
      rw [Catalogue.regular_cons] at regular
      rw [List.flatMap_cons]
      refine List.forall_mem_append.mpr ⟨?_, inductionHypothesis regular.2⟩
      exact ElementSpec.diagnosticsOf_concern regular.1 _ _

/-- A walk with regular decoders is clean when entries are visited to the last octet. -/
theorem Catalogue.isClean_iff
    {catalogue : Catalogue}
    (regular : catalogue.Regular)
    (scope : Scope)
    (window : Window) :
    (Catalogue.walk scope window catalogue).IsClean ↔
      ∃ pieces lastScope cursor,
        Visits scope window catalogue pieces lastScope cursor ∧ cursor.rest = [] := by
  constructor
  · rintro ⟨done, clean⟩
    obtain ⟨visited, unvisited, pieces, cursor, ending, rfl, course⟩ :=
      Catalogue.exists_course scope window catalogue
    obtain ⟨⟨lastScope, visits⟩, fits, walk_eq⟩ := course
    rw [walk_eq] at done clean
    cases ending with
    | complete =>
        obtain ⟨rfl, finished⟩ := fits
        rw [List.append_nil]
        exact ⟨pieces, lastScope, cursor, visits, Window.position_eq_stop_iff.mp finished⟩
    | extraneous =>
        have reported :
            ⟨.extraneousData, ⟨cursor.position, cursor.stop⟩⟩ ∈
              ((Ending.extraneous.walk cursor).behind pieces).diagnostics :=
          List.mem_append_right _ List.mem_cons_self
        exact (clean _ reported rfl).elim
    | missing | overrun =>
        cases done
  · rintro ⟨pieces, lastScope, cursor, visits, finished⟩
    have walk_eq := visits.walk_append []
    rw [List.append_nil, Catalogue.walk, Walk.finish, Window.isEmpty, finished] at walk_eq
    rw [walk_eq]
    refine ⟨rfl, fun diagnostic member extraneous => ?_⟩
    have concerns : diagnostic.kind.ConcernsElement := by
      apply visits.diagnostics_concern regular
      simpa [Walk.behind] using member
    rw [extraneous] at concerns
    exact concerns

end LteNas
