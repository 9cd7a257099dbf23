import LteNas.ElementValue.Container
import LteNas.Element.Catalogue
import LteNas.Proofs.Element.Records

namespace LteNas

/-!
# The kinds of decoders

Every decoder is of one of a few kinds.  Nearly all of them read a plain value
and look at nothing but the octets; the others carry a message, or consult one
thing that the message around them has established.  What is proved about
decoders is proved once for each kind.
-/

/-! ## Plain parts of values -/

@[simp] theorem numberField_isPlain
    (name : String)
    (value : Nat) :
    (numberField name value).IsPlain :=
  trivial

@[simp] theorem octetsField_isPlain
    (name : String)
    (octets : List UInt8) :
    (octetsField name octets).IsPlain :=
  trivial

@[simp] theorem textField_isPlain
    (name text : String) :
    (textField name text).IsPlain :=
  trivial

@[simp] theorem flagField_isPlain
    (name : String)
    (octet : UInt8)
    (place : Nat) :
    (flagField name octet place).IsPlain :=
  trivial

@[simp] theorem flagFields_plain
    (octet : UInt8)
    (names : List String) :
    FieldsPlain (flagFields octet names) := by
  rw [fieldsPlain_iff]
  intro part member
  obtain ⟨index, -, rfl⟩ := List.mem_mapIdx.mp member
  exact flagField_isPlain _ _ _

@[simp] theorem codedBy_isPlain
    (table : List (Nat × String))
    (other : String)
    (code : UInt8) :
    (codedBy table other code).IsPlain :=
  trivial

@[simp] theorem codedBit_isPlain
    (octet : UInt8)
    (place : Nat)
    (set clear : String) :
    (codedBit octet place set clear).IsPlain := by
  rw [codedBit]
  split <;> trivial

/-- Half an octet never stands for a message. -/
def NibbleDecoder.IsPlain (decode : NibbleDecoder) : Prop :=
  ∀ nibble, (decode nibble).IsPlain

/-! ## Decoders of whole octets -/

/-- A reader that reports nothing. -/
def Reader.silent (reader : Reader Value) : Reader (Value × List Diagnostic) := do
  return (← reader, [])

/-- A decoder that only reads is one that reports nothing. -/
theorem Reader.decoder_eq_reporting
    (reader : Reader Value) :
    reader.decoder = reader.silent.reporting := by
  funext scope window
  have silent_eq :
      reader.silent window =
        (reader window).bind fun (value, after) => .ok ((value, []), after) := by
    rfl
  rw [Reader.decoder, Reader.reporting, silent_eq]
  cases reader window with
  | error fault =>
      rfl
  | ok outcome =>
      rfl

open ElementValue in
/-- The kinds of decoders. -/
inductive OctetDecoder.Regular : OctetDecoder → Prop where
  /-- It reads a plain value and looks at nothing but the octets. -/
  | reading {reader : Reader (Value × List Diagnostic)}
      (isLocal : ∀ site : Site, reader.Local site (site.Reporting Value.IsPlain) reader) :
      Regular reader.reporting
  /-- It carries a message. -/
  | carried (carriage : Carriage) :
      Regular (carriedMessage carriage)
  /-- It carries a session management message, which may still be ciphered. -/
  | session :
      Regular sessionMessage
  /-- It announces the type of the next generic container. -/
  | containerType :
      Regular genericContainerType
  /-- It hands octets to the protocol that was announced. -/
  | container :
      Regular genericContainer
  /-- It hands octets to the protocol that the settings name. -/
  | userData :
      Regular userData

/-- A reader that is steady and reads plain values makes a decoder. -/
theorem OctetDecoder.Regular.of_steady
    {reader : Reader Value}
    (steady : ∀ site, reader.Steady site Value.IsPlain) :
    OctetDecoder.Regular reader.decoder := by
  rw [Reader.decoder_eq_reporting]
  apply OctetDecoder.Regular.reading
  intro site
  apply (steady site).bind
  intro value plain
  exact .pure ⟨rfl, plain, .nil⟩

/-- A decoder of a single octet is regular when it makes each octet a plain value. -/
theorem OctetDecoder.Regular.of_soleOctet
    {value : UInt8 → Value}
    (plain : ∀ octet, (value octet).IsPlain) :
    OctetDecoder.Regular (Reader.decoder (do return value (← Reader.soleOctet))) := by
  apply OctetDecoder.Regular.of_steady
  intro site
  apply Reader.soleOctet_steady.bind
  intro octet _
  exact .pure ⟨rfl, plain octet⟩

/-- The decoder is of one of the kinds, or makes half an octet a plain value. -/
def Decoder.Regular : Decoder → Prop
  | .nibble decode => NibbleDecoder.IsPlain decode
  | .octets decode => OctetDecoder.Regular decode

/-- A decoder may report the finding; the other kinds concern whole messages. -/
def DiagnosticKind.ConcernsElement : DiagnosticKind → Prop
  | .nestingLimit _ => True
  | .decipherFailed => True
  | kind => kind.ConcernsValue

theorem DiagnosticKind.ConcernsValue.concernsElement
    {kind : DiagnosticKind}
    (concerns : kind.ConcernsValue) :
    kind.ConcernsElement := by
  cases kind <;> first | exact concerns | trivial

/-- The octets of a body, read where they stand. -/
theorem Site.sees_self
    (window : Window) :
    Site.Sees ⟨window.remainingSpan, ⟨0, 0⟩⟩ window window where
  start_le := Nat.le_refl _
  stop_le := Nat.le_refl _
  far_eq := rfl

theorem ElementValue.carriedMessage_concerns
    (carriage : Carriage)
    (scope : Scope)
    (body : Window) :
    ∀ diagnostic ∈ (carriedMessage carriage scope body).diagnostics,
      diagnostic.kind.ConcernsElement := by
  rw [carriedMessage]
  split
  · simp
  · simp [DiagnosticKind.ConcernsElement]

open ElementValue in
/-- A regular decoder of whole octets reports only findings about its element. -/
theorem OctetDecoder.Regular.concerns
    {decode : OctetDecoder}
    (regular : OctetDecoder.Regular decode)
    (scope : Scope)
    (body : Window) :
    ∀ diagnostic ∈ (decode scope body).diagnostics, diagnostic.kind.ConcernsElement := by
  induction regular with
  | reading isLocal =>
      rename_i reader
      have agree := isLocal _ body body (Site.sees_self body)
      simp only [Reader.reporting]
      generalize reader body = outcome at agree ⊢
      cases agree with
      | error =>
          simp
      | ok reporting _ =>
          intro diagnostic member
          exact (reporting.reported.concerns diagnostic member).concernsElement
  | carried carriage =>
      exact carriedMessage_concerns carriage scope body
  | session =>
      rw [sessionMessage]
      split
      · simp [DiagnosticKind.ConcernsElement]
      · exact carriedMessage_concerns .bare scope body
  | containerType =>
      rw [genericContainerType]
      split <;> simp
  | container =>
      rw [genericContainer]
      split <;> simp [handedTo, uninterpreted, Reader.decoder]
  | userData =>
      rw [ElementValue.userData]
      split <;> simp [handedTo, uninterpreted, Reader.decoder]

/-- A regular decoder reports only findings about its element. -/
theorem Decoder.Regular.concerns
    {decoder : Decoder}
    (regular : decoder.Regular)
    (scope : Scope)
    (body : Window) :
    ∀ diagnostic ∈ (decoder.decodeOctets scope body).diagnostics,
      diagnostic.kind.ConcernsElement := by
  cases decoder with
  | nibble decode =>
      simp [decodeOctets, Reader.decoder]
  | octets decode =>
      exact OctetDecoder.Regular.concerns regular scope body

/-- All decoders of a catalogue are regular. -/
def Catalogue.Regular (catalogue : Catalogue) : Prop :=
  ∀ entry ∈ catalogue, entry.decoder.Regular

section Entries

variable (tag : UInt8) (label : String) (length : Nat) (decodeNibble : NibbleDecoder)
  (decode : OctetDecoder)

@[simp] theorem Catalogue.regular_nil :
    Catalogue.Regular [] := by
  simp [Catalogue.Regular]

@[simp] theorem Catalogue.regular_cons
    {entry : ElementSpec}
    {entries : Catalogue} :
    Catalogue.Regular (entry :: entries) ↔ entry.decoder.Regular ∧ entries.Regular :=
  List.forall_mem_cons

namespace ElementSpec

@[simp] theorem lowHalf_regular :
    (lowHalf label decodeNibble).decoder.Regular ↔ decodeNibble.IsPlain :=
  Iff.rfl

@[simp] theorem highHalf_regular :
    (highHalf label decodeNibble).decoder.Regular ↔ decodeNibble.IsPlain :=
  Iff.rfl

@[simp] theorem taggedHalf_regular :
    (taggedHalf tag label decodeNibble).decoder.Regular ↔ decodeNibble.IsPlain :=
  Iff.rfl

@[simp] theorem fixed_regular :
    (fixed label length decode).decoder.Regular ↔ decode.Regular :=
  Iff.rfl

@[simp] theorem sized_regular :
    (sized label decode).decoder.Regular ↔ decode.Regular :=
  Iff.rfl

@[simp] theorem sizedExtended_regular :
    (sizedExtended label decode).decoder.Regular ↔ decode.Regular :=
  Iff.rfl

@[simp] theorem tagged_regular :
    (tagged tag label length decode).decoder.Regular ↔ decode.Regular :=
  Iff.rfl

@[simp] theorem taggedSized_regular :
    (taggedSized tag label decode).decoder.Regular ↔ decode.Regular :=
  Iff.rfl

@[simp] theorem taggedSizedExtended_regular :
    (taggedSizedExtended tag label decode).decoder.Regular ↔ decode.Regular :=
  Iff.rfl

end ElementSpec

end Entries

end LteNas
