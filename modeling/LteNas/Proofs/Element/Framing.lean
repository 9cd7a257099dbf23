import LteNas.Element.Catalogue
import LteNas.Proofs.Octets.Window

namespace LteNas

/-!
# How elements are cut off

An element is a header, which is its tag and its length as far as it has them,
and a value.  A format cuts an element off a window exactly when the octets in
front are such a header and as many octets as it announces.  The cut is stated
as an equivalence for each of its outcomes, so that the walk over a catalogue
is never looked into at the level of single reads.
-/

namespace WireFormat

/-- The octets in front of a value of a length: the tag, then the length. -/
def header (format : WireFormat) (length : Nat) : List UInt8 :=
  match format with
  | .sized => bigEndianOctets 1 length
  | .sizedExtended => bigEndianOctets 2 length
  | .tagged tag _ => [tag]
  | .taggedSized tag => tag :: bigEndianOctets 1 length
  | .taggedSizedExtended tag => tag :: bigEndianOctets 2 length
  | _ => []

/-- A format has room for a value of a length; half an octet has room for none. -/
def Admits (format : WireFormat) (length : Nat) : Prop :=
  match format with
  | .fixed width => length = width
  | .sized => length < 256
  | .sizedExtended => length < 65536
  | .tagged _ width => length = width
  | .taggedSized _ => length < 256
  | .taggedSizedExtended _ => length < 65536
  | _ => False

/-- An element of the format has to be there. -/
def IsMandatory (format : WireFormat) : Prop :=
  format.tag? = none

instance (format : WireFormat) : Decidable format.IsMandatory :=
  inferInstanceAs (Decidable (format.tag? = none))

/-- An element of the format is half an octet. -/
def IsHalf : WireFormat → Prop
  | .lowHalf => True
  | .highHalf => True
  | .taggedHalf _ => True
  | _ => False

/-- The half of an octet that an element of half an octet is. -/
def nibbleOf (format : WireFormat) (octet : UInt8) : UInt8 :=
  match format with
  | .highHalf => highNibble octet
  | _ => lowNibble octet

/-- The octets that half an octet takes: a low half leaves its octet to be read. -/
def halfLength : WireFormat → Nat
  | .lowHalf => 0
  | _ => 1

/-- The number of octets of a header. -/
def headerLength : WireFormat → Nat
  | .sized => 1
  | .sizedExtended => 2
  | .tagged _ _ => 1
  | .taggedSized _ => 2
  | .taggedSizedExtended _ => 3
  | _ => 0

@[simp] theorem header_length
    (format : WireFormat)
    (length : Nat) :
    (format.header length).length = format.headerLength := by
  cases format <;> simp [header, headerLength]

/-- A value with its header in front. -/
theorem framed_length
    (format : WireFormat)
    (value : List UInt8) :
    (format.header value.length ++ value).length = format.headerLength + value.length := by
  rw [List.length_append, header_length]

/-- Only a low half leaves its octet to be read. -/
theorem halfLength_of_ne
    {format : WireFormat}
    (notLow : format ≠ .lowHalf) :
    format.halfLength = 1 := by
  cases format <;> first | rfl | exact (notLow rfl).elim

/-- Half an octet has no room for a value. -/
theorem not_isHalf_of_admits
    {format : WireFormat}
    {length : Nat}
    (admitted : format.Admits length) :
    ¬ format.IsHalf := by
  intro half
  cases format <;> first | exact admitted | exact half

/-- Every octet may start a mandatory element. -/
theorem accepts_of_isMandatory
    {format : WireFormat}
    (mandatory : format.IsMandatory)
    (first : UInt8) :
    format.accepts first = true := by
  cases format <;> first | rfl | cases mandatory

/-- A header of an optional element starts with an octet that the format accepts. -/
theorem accepts_of_header
    {format : WireFormat}
    {length : Nat}
    (admitted : format.Admits length)
    {first : UInt8}
    {value others : List UInt8}
    (shape : first :: others = format.header length ++ value) :
    format.accepts first = true := by
  cases format with
  | tagged tag width =>
      simp only [header, List.cons_append, List.cons.injEq] at shape
      simp [accepts, tag?, shape.1]
  | taggedSized tag =>
      simp only [header, List.cons_append, List.cons.injEq] at shape
      simp [accepts, tag?, shape.1]
  | taggedSizedExtended tag =>
      simp only [header, List.cons_append, List.cons.injEq] at shape
      simp [accepts, tag?, shape.1]
  | taggedHalf tag =>
      exact admitted.elim
  | lowHalf | highHalf | fixed _ | sized | sizedExtended =>
      rfl

/-! ## The window of a value -/

/-- A value stands behind its header, and the window behind the value. -/
def Cuts (format : WireFormat) (window body after : Window) : Prop :=
  ∃ value,
    format.Admits value.length ∧
      window.rest = format.header value.length ++ value ++ after.rest ∧
      body = Window.ofOctets value (window.position + format.headerLength) ∧
      after = window.advance (format.headerLength + value.length)

/-- A tag in front of a format moves its cut by one octet. -/
theorem cuts_behind_tag
    {format untagged : WireFormat}
    {window body after : Window}
    {tag : UInt8}
    {others : List UInt8}
    (shape : window.rest = tag :: others)
    (sameLengths : ∀ length, format.Admits length ↔ untagged.Admits length)
    (tagInFront : ∀ length, format.header length = tag :: untagged.header length)
    (longer : format.headerLength = untagged.headerLength + 1) :
    untagged.Cuts (window.advance 1) body after ↔ format.Cuts window body after := by
  have behind : (window.advance 1).rest = others := by
    simp [shape]
  have start :
      (window.advance 1).position + untagged.headerLength =
        window.position + format.headerLength := by
    rw [Window.advance_position]
    omega
  have stop (length : Nat) :
      (window.advance 1).advance (untagged.headerLength + length) =
        window.advance (format.headerLength + length) := by
    rw [Window.advance_advance, longer]
    congr 1
    omega
  constructor
  · rintro ⟨value, admitted, cut, rfl, rfl⟩
    refine ⟨value, (sameLengths _).mpr admitted, ?_, by rw [start], stop _⟩
    rw [behind] at cut
    rw [shape, tagInFront, cut]
    rfl
  · rintro ⟨value, admitted, cut, rfl, rfl⟩
    refine ⟨value, (sameLengths _).mp admitted, ?_, by rw [start], (stop _).symm⟩
    rw [shape, tagInFront] at cut
    rw [behind]
    exact (List.cons.inj cut).2

/-- A value of fixed length is cut off by its length. -/
theorem readBody_fixed_iff
    {width : Nat}
    {window body after : Window} :
    (fixed width).readBody window = .ok (body, after) ↔
      (fixed width).Cuts window body after := by
  rw [readBody, Window.inner_eq_ok_iff]
  constructor
  · rintro ⟨value, rfl, shape, rfl, rfl⟩
    exact ⟨value, rfl, shape, rfl, by simp [headerLength]⟩
  · rintro ⟨value, rfl, shape, rfl, rfl⟩
    exact ⟨value, rfl, shape, rfl, by simp [headerLength]⟩

/-- A value behind one octet of length. -/
theorem readBody_sized_iff
    {window body after : Window} :
    sized.readBody window = .ok (body, after) ↔ sized.Cuts window body after :=
  Window.sizedInner_eq_ok_iff

/-- A value behind two octets of length. -/
theorem readBody_sizedExtended_iff
    {window body after : Window} :
    sizedExtended.readBody window = .ok (body, after) ↔
      sizedExtended.Cuts window body after :=
  Window.sizedInner_eq_ok_iff

/-- A tag that is there is passed over. -/
theorem readBody_tagged_eq
    {window : Window}
    {tag first : UInt8}
    {others : List UInt8}
    (shape : window.rest = first :: others)
    (width : Nat) :
    (tagged tag width).readBody window = (fixed width).readBody (window.advance 1) ∧
      (taggedSized tag).readBody window = sized.readBody (window.advance 1) ∧
      (taggedSizedExtended tag).readBody window =
        sizedExtended.readBody (window.advance 1) := by
  simp only [readBody, Window.octet_of_cons shape]
  exact ⟨rfl, rfl, rfl⟩

/-- A value is read exactly when it stands behind its header, the tag being the right one. -/
theorem readBody_eq_ok_iff
    {format : WireFormat}
    {window body after : Window}
    {first : UInt8}
    {others : List UInt8}
    (shape : window.rest = first :: others)
    (accepted : format.accepts first = true)
    (whole : ¬ format.IsHalf) :
    format.readBody window = .ok (body, after) ↔ format.Cuts window body after := by
  have tagged_eq {tag : UInt8} (same : (first == tag) = true) :
      window.rest = tag :: others := by
    rw [shape, eq_of_beq same]
  cases format with
  | lowHalf | highHalf | taggedHalf tag =>
      exact (whole trivial).elim
  | fixed width =>
      exact readBody_fixed_iff
  | sized =>
      exact readBody_sized_iff
  | sizedExtended =>
      exact readBody_sizedExtended_iff
  | tagged tag width =>
      have tagInFront := tagged_eq (by simpa [accepts, tag?] using accepted)
      rw [(readBody_tagged_eq shape width).1, readBody_fixed_iff]
      exact cuts_behind_tag tagInFront (fun _ => Iff.rfl) (fun _ => rfl) rfl
  | taggedSized tag =>
      have tagInFront := tagged_eq (by simpa [accepts, tag?] using accepted)
      rw [(readBody_tagged_eq shape 0).2.1, readBody_sized_iff]
      exact cuts_behind_tag tagInFront (fun _ => Iff.rfl) (fun _ => rfl) rfl
  | taggedSizedExtended tag =>
      have tagInFront := tagged_eq (by simpa [accepts, tag?] using accepted)
      rw [(readBody_tagged_eq shape 0).2.2, readBody_sizedExtended_iff]
      exact cuts_behind_tag tagInFront (fun _ => Iff.rfl) (fun _ => rfl) rfl

/-! ## The outcomes of a cut -/

section Outcomes

variable {format : WireFormat} {window body after : Window} {first nibble : UInt8}
  {others : List UInt8}

/-- Without octets an optional element is absent, and a mandatory one is missing. -/
theorem frame_of_nil
    (empty : window.rest = []) :
    format.frame window = if format.IsMandatory then .missing else .absent := by
  cases format <;> simp [frame, Window.peek?, empty, IsMandatory, tag?]

/-- An octet that the format does not accept is left to the entries behind. -/
theorem frame_of_not_accepts
    (shape : window.rest = first :: others)
    (refused : format.accepts first = false) :
    format.frame window = .absent := by
  simp [frame, Window.peek?, shape, refused]

/-- An element of half an octet takes its half of the octet in front. -/
theorem frame_of_isHalf
    (shape : window.rest = first :: others)
    (accepted : format.accepts first = true)
    (half : format.IsHalf) :
    format.frame window =
      .half (format.nibbleOf first) (window.advance format.halfLength) := by
  cases format with
  | lowHalf | highHalf | taggedHalf tag =>
      simp [frame, Window.peek?, shape, accepted, nibbleOf, halfLength]
  | fixed _ | sized | sizedExtended | tagged _ _ | taggedSized _ | taggedSizedExtended _ =>
      exact half.elim

/-- An element with a value takes its header and its value, or runs past the end. -/
theorem frame_of_not_isHalf
    (shape : window.rest = first :: others)
    (accepted : format.accepts first = true)
    (whole : ¬ format.IsHalf) :
    format.frame window =
      match format.readBody window with
      | .ok (body, after) => .body body after
      | .error _ => .overrun := by
  cases format with
  | lowHalf | highHalf | taggedHalf tag =>
      exact (whole trivial).elim
  | fixed _ | sized | sizedExtended | tagged _ _ | taggedSized _ | taggedSizedExtended _ =>
      have peeked : window.peek? = some first := by
        rw [Window.peek?, shape, List.head?_cons]
      rw [frame, peeked]
      exact if_pos accepted

/-- A value that stands behind its header is cut off. -/
theorem frame_of_cuts
    (more : window.rest ≠ [])
    (cuts : format.Cuts window body after) :
    format.frame window = .body body after := by
  obtain ⟨first, others, shape⟩ := List.exists_cons_of_ne_nil more
  obtain ⟨value, admitted, cut, -, -⟩ := id cuts
  have accepted : format.accepts first = true := by
    rw [shape, List.append_assoc] at cut
    exact accepts_of_header admitted cut
  have whole := not_isHalf_of_admits admitted
  rw [frame_of_not_isHalf shape accepted whole,
    (readBody_eq_ok_iff shape accepted whole).mpr cuts]

/-- What an outcome says about the octets in front of the window. -/
def Tells (format : WireFormat) (window : Window) : Framing → Prop
  | .absent =>
      ¬ format.IsMandatory ∧
        ∀ first others, window.rest = first :: others → format.accepts first = false
  | .missing =>
      format.IsMandatory ∧ window.rest = []
  | .overrun =>
      window.rest ≠ []
  | .half nibble after =>
      format.IsHalf ∧
        after = window.advance format.halfLength ∧
        ∃ first others,
          window.rest = first :: others ∧
            format.accepts first = true ∧
            nibble = format.nibbleOf first
  | .body body after =>
      window.rest ≠ [] ∧ format.Cuts window body after

/-- Every outcome tells what octets are in front of the window. -/
theorem tells_frame
    (format : WireFormat)
    (window : Window) :
    format.Tells window (format.frame window) := by
  cases shape : window.rest with
  | nil =>
      rw [frame_of_nil shape]
      split
      · rename_i mandatory
        exact ⟨mandatory, shape⟩
      · rename_i optional
        exact ⟨optional, by simp [shape]⟩
  | cons first others =>
      cases accepted : format.accepts first with
      | false =>
          rw [frame_of_not_accepts shape accepted]
          refine ⟨fun mandatory => ?_, ?_⟩
          · rw [accepts_of_isMandatory mandatory first] at accepted
            cases accepted
          · intro front tail same
            cases shape.symm.trans same
            exact accepted
      | true =>
          by_cases half : format.IsHalf
          · rw [frame_of_isHalf shape accepted half]
            exact ⟨half, rfl, first, others, shape, accepted, rfl⟩
          · rw [frame_of_not_isHalf shape accepted half]
            split
            · rename_i read
              refine ⟨by simp [shape], ?_⟩
              exact (readBody_eq_ok_iff shape accepted half).mp read
            · simp [Tells, shape]

end Outcomes

end WireFormat

end LteNas
