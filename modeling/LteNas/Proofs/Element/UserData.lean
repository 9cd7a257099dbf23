import LteNas.Proofs.Catalogue.Shipped
import LteNas.Proofs.Element.Containment
import LteNas.Proofs.Element.Entering
import LteNas.Proofs.Message.UserData

namespace LteNas

/-!
# User data in walks

The settings on user data are consulted by one decoder, and decide nothing but
the protocol that its octets are handed to.  So walks in scopes that differ in
these settings find the same, once user data is bare.
-/

open ElementValue

/-! ## The value of user data -/

/-- User data is its octets, handed to a protocol if the settings name one. -/
def Config.userDataValue (config : Config) (octets : List UInt8) : Value :=
  match userDataProtocol? config with
  | some protocol => .handoff protocol octets
  | none => .octets octets

@[simp] theorem Config.userDataValue_bare
    (config : Config)
    (octets : List UInt8) :
    (config.userDataValue octets).bare = .octets octets := by
  rw [userDataValue]
  split <;> rfl

/-- Whatever the settings, user data can be read, and nothing is reported of it. -/
theorem ElementValue.userData_eq
    (scope : Scope)
    (body : Window) :
    userData scope body =
      ⟨.ok (scope.config.userDataValue body.rest, body.exhaust), [], scope.containerType⟩ := by
  rw [userData, Config.userDataValue]
  cases userDataProtocol? scope.config with
  | none =>
      rfl
  | some protocol =>
      rfl

/-! ## Decoders -/

/-- Where user data is handed to the internet protocol, the decoder hands octets to it. -/
def OctetDecoder.consultsUserData (decode : OctetDecoder) : Bool :=
  let scope :=
    { Scope.unlimited with config := { Config.standard with userData := .ip } }
  match (decode scope (.ofOctets [] 0)).outcome with
  | .ok (.handoff protocol _, _) => protocol == "ip"
  | _ => false

/-- User data is in containers of its own, and decoded where it is. -/
def Catalogue.HandsUserData (catalogue : Catalogue) : Prop :=
  ∀ entry ∈ catalogue,
    (OctetDecoder.consultsUserData entry.decoder.decodeOctets = true →
      entry.label = "User data container") ∧
      (entry.label = "User data container" →
        entry.format = .sizedExtended ∧ entry.decoder = .octets userData)

section Scopes

variable {near far : Scope} {body : Window}

/-- The scopes differ in the settings on user data at most, and so do those of the messages inside. -/
structure Scope.AlikeBesideData (near far : Scope) : Prop where
  partiallyCiphered_eq : far.partiallyCiphered = near.partiallyCiphered
  containerType_eq : far.containerType = near.containerType
  limit_eq : far.config.maxNestingDepth = near.config.maxNestingDepth
  nested (carriage : Carriage) (window : Window) :
    Option.Rel (fun inner other => other.1.withBareData = inner.1.withBareData)
      (near.nested carriage window) (far.nested carriage window)

/-- Two readings are the same but for user data in the messages that they carry. -/
inductive Reading.SameBesideData : Reading → Reading → Prop where
  | error {fault : Fault} {diagnostics : List Diagnostic} {containerType : Option UInt8} :
      SameBesideData ⟨.error fault, diagnostics, containerType⟩
        ⟨.error fault, diagnostics, containerType⟩
  | ok {value other : Value} {after otherAfter : Window} {diagnostics : List Diagnostic}
      {containerType : Option UInt8}
      (value_eq : other.withBareData = value.withBareData) :
      SameBesideData ⟨.ok (value, after), diagnostics, containerType⟩
        ⟨.ok (other, otherAfter), diagnostics, containerType⟩

protected theorem Reading.SameBesideData.refl
    (reading : Reading) :
    Reading.SameBesideData reading reading := by
  rcases reading with ⟨_ | ⟨value, after⟩, diagnostics, containerType⟩
  · exact .error
  · exact .ok rfl

namespace Scope.AlikeBesideData

theorem carriedMessage_same
    (alike : near.AlikeBesideData far)
    (carriage : Carriage)
    (body : Window) :
    Reading.SameBesideData (carriedMessage carriage near body)
      (carriedMessage carriage far body) := by
  have nested := alike.nested carriage body
  simp only [carriedMessage, alike.containerType_eq, alike.limit_eq]
  generalize near.nested carriage body = inner, far.nested carriage body = other at nested
  cases nested with
  | none =>
      exact .ok rfl
  | some carried_eq =>
      refine .ok ?_
      rw [Value.withBareData, Value.withBareData, carried_eq]

/-- A decoder that does not consult the settings on user data reads the same. -/
theorem regular_same
    {decode : OctetDecoder}
    (alike : near.AlikeBesideData far)
    (regular : OctetDecoder.Regular decode)
    (other : OctetDecoder.consultsUserData decode = false) :
    Reading.SameBesideData (decode near body) (decode far body) := by
  induction regular with
  | reading isLocal =>
      simp only [Reader.reporting, alike.containerType_eq]
      exact .refl _
  | carried carriage =>
      exact alike.carriedMessage_same carriage body
  | session =>
      simp only [sessionMessage, alike.partiallyCiphered_eq, alike.containerType_eq]
      split
      · exact .refl _
      · exact alike.carriedMessage_same .bare body
  | containerType =>
      simp only [genericContainerType, alike.containerType_eq]
      exact .refl _
  | container =>
      simp only [genericContainer, handedTo, uninterpreted, Reader.decoder,
        alike.containerType_eq]
      exact .refl _
  | userData =>
      cases other

end Scope.AlikeBesideData

theorem ElementSpec.element_withBareData_of_data
    {entry : ElementSpec}
    (isData : entry.label = "User data container")
    (span : Span)
    (value : Value) :
    (entry.element span value).withBareData = entry.element span value.bare := by
  simp [Element.withBareData, Element.IsUserData, element, isData]

theorem ElementSpec.element_withBareData_of_other
    {entry : ElementSpec}
    (notData : entry.label ≠ "User data container")
    (span : Span)
    (value : Value) :
    (entry.element span value).withBareData = entry.element span value.withBareData := by
  simp [Element.withBareData, Element.IsUserData, element, notData]

/-- An entry makes the same of two readings, once user data is bare. -/
structure ElementSpec.ReadsAlike
    (entry : ElementSpec)
    (body : Window)
    (near far : Reading) :
    Prop where
  element_eq (span : Span) :
    (entry.element span (valueOf far body)).withBareData =
      (entry.element span (valueOf near body)).withBareData
  diagnostics_eq : entry.diagnosticsOf far body = entry.diagnosticsOf near body
  containerType_eq : far.containerType = near.containerType

theorem Reading.SameBesideData.readsAlike
    {nearReading farReading : Reading}
    {entry : ElementSpec}
    (same : Reading.SameBesideData nearReading farReading)
    (notData : entry.label ≠ "User data container")
    (body : Window) :
    entry.ReadsAlike body nearReading farReading := by
  cases same with
  | error =>
      exact ⟨fun _ => rfl, rfl, rfl⟩
  | ok value_eq =>
      refine ⟨fun span => ?_, rfl, rfl⟩
      rw [ElementSpec.element_withBareData_of_other notData,
        ElementSpec.element_withBareData_of_other notData]
      exact congrArg (entry.element span) value_eq

theorem ElementSpec.readsAlike
    {entry : ElementSpec}
    (alike : near.AlikeBesideData far)
    (regular : entry.decoder.Regular)
    (consults : OctetDecoder.consultsUserData entry.decoder.decodeOctets = true →
      entry.label = "User data container")
    (handed : entry.label = "User data container" → entry.decoder = .octets userData)
    (body : Window) :
    entry.ReadsAlike body (entry.decoder.decodeOctets near body)
      (entry.decoder.decodeOctets far body) := by
  by_cases isData : entry.label = "User data container"
  · have near_eq : entry.decoder.decodeOctets near body = _ :=
      (congrArg (Decoder.decodeOctets · near body) (handed isData)).trans (userData_eq near body)
    have far_eq : entry.decoder.decodeOctets far body = _ :=
      (congrArg (Decoder.decodeOctets · far body) (handed isData)).trans (userData_eq far body)
    rw [near_eq, far_eq]
    refine ⟨fun span => ?_, rfl, alike.containerType_eq⟩
    simp only [valueOf, element_withBareData_of_data isData, Config.userDataValue_bare]
  · have other : OctetDecoder.consultsUserData entry.decoder.decodeOctets = false := by
      rw [← Bool.not_eq_true]
      exact fun found => isData (consults found)
    have same :
        Reading.SameBesideData (entry.decoder.decodeOctets near body)
          (entry.decoder.decodeOctets far body) := by
      cases decoder_eq : entry.decoder with
      | nibble decode =>
          simp only [Decoder.decodeOctets, Reader.decoder, alike.containerType_eq]
          exact .refl _
      | octets decode =>
          rw [decoder_eq] at regular other
          exact alike.regular_same regular other
    exact same.readsAlike isData body

/-! ## Walks -/

/-- Walks are the same, once user data is bare. -/
structure Walk.SameBesideData (near far : Walk) : Prop where
  flow_eq : far.flow = near.flow
  elements_eq : far.elements.map Element.withBareData = near.elements.map Element.withBareData
  diagnostics_eq : far.diagnostics = near.diagnostics
  window_eq : far.window = near.window

theorem Walk.SameBesideData.prepend
    {nearWalk farWalk : Walk}
    {element other : Element}
    {diagnostics : List Diagnostic}
    (same : nearWalk.SameBesideData farWalk)
    (element_eq : other.withBareData = element.withBareData) :
    (nearWalk.prepend element diagnostics).SameBesideData
      (farWalk.prepend other diagnostics) where
  flow_eq := same.flow_eq
  elements_eq := by
    simp only [Walk.prepend, List.map_cons, element_eq, same.elements_eq]
  diagnostics_eq := congrArg (diagnostics ++ ·) same.diagnostics_eq
  window_eq := same.window_eq

theorem Catalogue.walk_sameBesideData
    {catalogue : Catalogue}
    (regular : catalogue.Regular)
    (hands : catalogue.HandsUserData)
    (alike : near.AlikeBesideData far)
    (window : Window) :
    (Catalogue.walk near window catalogue).SameBesideData
      (Catalogue.walk far window catalogue) := by
  induction catalogue generalizing near far window with
  | nil =>
      exact ⟨rfl, rfl, rfl, rfl⟩
  | cons entry entries inductionHypothesis =>
      obtain ⟨entryRegular, entriesRegular⟩ := Catalogue.regular_cons.mp regular
      obtain ⟨⟨entryConsults, entryHands⟩, entriesHand⟩ := List.forall_mem_cons.mp hands
      rw [Catalogue.walk, Catalogue.walk]
      cases framing : entry.format.frame window with
      | absent =>
          exact inductionHypothesis entriesRegular entriesHand alike window
      | missing | overrun =>
          exact ⟨rfl, rfl, rfl, rfl⟩
      | half nibble after =>
          exact (inductionHypothesis entriesRegular entriesHand alike after).prepend rfl
      | body body after =>
          have reads :=
            ElementSpec.readsAlike alike entryRegular entryConsults
              (fun isData => (entryHands isData).2) body
          -- the scopes behind the value agree in the type that it may have announced
          have behindAlike :
              (entry.scopeBehind near body).AlikeBesideData (entry.scopeBehind far body) :=
            ⟨alike.partiallyCiphered_eq, reads.containerType_eq, alike.limit_eq, alike.nested⟩
          have behind := inductionHypothesis entriesRegular entriesHand behindAlike after
          simp only [reads.diagnostics_eq]
          exact behind.prepend (reads.element_eq _)

end Scopes

/-! ## The octets of user data -/

section Octets

variable {catalogue : Catalogue} {scope : Scope} {window : Window} {element : Element}

/-- Behind two octets of length a value ends where its element does. -/
theorem ElementSpec.contentSpan_of_sizedExtended
    {entry : ElementSpec}
    {cursor body after : Window}
    (format_eq : entry.format = .sizedExtended)
    (framing : entry.format.frame cursor = .body body after)
    (value : Value) :
    (entry.element ⟨cursor.position, after.position⟩ value).contentSpan =
      body.remainingSpan := by
  rw [WireFormat.remainingSpan_of_frame_body framing, Element.contentSpan, element, format_eq]
  rfl

/-- A walk does not change the settings. -/
theorem Visits.config_eq
    {lastScope : Scope}
    {cursor : Window}
    {entries : Catalogue}
    {pieces : List Piece}
    (visits : Visits scope window entries pieces lastScope cursor) :
    lastScope.config = scope.config := by
  induction visits with
  | nil =>
      rfl
  | absent _ _ inductionHypothesis | half _ _ inductionHypothesis
  | body _ _ inductionHypothesis =>
      exact inductionHypothesis

/-- User data that a walk finds is the octets of its element behind two octets of length. -/
theorem Catalogue.walk_userData
    (hands : catalogue.HandsUserData)
    (member : element ∈ (Catalogue.walk scope window catalogue).elements)
    (isData : element.IsUserData) :
    let content := window.portion element.contentSpan
    window.position ≤ element.contentSpan.start ∧
      content.remainingSpan = element.contentSpan ∧
      element.value = scope.config.userDataValue content.rest := by
  have whole (entry : ElementSpec) (member : entry ∈ catalogue)
      (same : entry.label = element.label) :
      ¬ entry.format.IsHalf := by
    rw [((hands entry member).2 (same.trans isData)).1]
    exact id
  obtain ⟨before, entry, behind, pieces, here, cursor, body, after, passes, rfl⟩ :=
    Catalogue.exists_passes whole member
  have entryMember : entry ∈ catalogue := by
    rw [passes.catalogue_eq]
    exact List.mem_append_right _ List.mem_cons_self
  obtain ⟨format_eq, decoder_eq⟩ := (hands entry entryMember).2 isData
  rw [entry.contentSpan_of_sizedExtended format_eq passes.framing, ← passes.body_eq.1]
  refine ⟨?_, rfl, ?_⟩
  · exact Nat.le_trans passes.visits.reaches.position_le
      (WireFormat.reaches_of_frame_body passes.framing).2.1
  · rw [decoder_eq, ← passes.visits.config_eq]
    exact congrArg (ElementSpec.valueOf · body) (userData_eq here body)

end Octets

end LteNas
