import LteNas.Proofs.Decode.Moving

namespace LteNas

/-!
# The header of a plain message

A plain message starts with its discriminator, which a session management message
shares with its bearer and follows by its transaction, and with its type.  Either
a type is found, and the elements of the message stand behind the header, or the
message is complete.
-/

/-! ## Messages without a body -/

/-- The element belongs to no catalogue: it shows a part of the message, or all of it. -/
inductive Element.IsUncatalogued (element : Element) : Prop where
  | plain
      (label_mem : element.label ∈
        ["KSI and sequence number", "Message authentication code (short)",
          "Test procedures message"])
      (isPlain : element.value.IsPlain)
  | ciphered (octets : List UInt8)
      (label_eq : element.label = "Ciphered message")
      (value_eq : element.value = .ciphered octets)

theorem Element.IsUncatalogued.not_carries
    {element : Element}
    {carried : Message}
    (uncatalogued : element.IsUncatalogued) :
    ¬ element.value.Carries carried := by
  cases uncatalogued with
  | plain label_mem isPlain =>
      exact isPlain.not_carries
  | ciphered octets label_eq value_eq =>
      rw [value_eq]
      rintro ⟨⟩

/-- The elements belong to no catalogue, and none of the diagnostics is about a limit. -/
structure Message.IsFlat (message : Message) : Prop where
  uncatalogued : ∀ element ∈ message.elements, element.IsUncatalogued
  meetsNoLimit :
    ∀ diagnostic ∈ message.diagnostics, ∀ limit, diagnostic.kind ≠ .nestingLimit limit

namespace Message.IsFlat

variable {message : Message}

theorem blank
    (isBlank : message.IsBlank) :
    message.IsFlat where
  uncatalogued := by
    simp [isBlank.elements_eq]
  meetsNoLimit := by
    simp [isBlank.diagnostics_eq]

theorem report
    (flat : message.IsFlat)
    (kind : DiagnosticKind)
    (span : Span)
    (noLimit : ∀ limit, kind ≠ .nestingLimit limit) :
    (message.report kind span).IsFlat where
  uncatalogued := flat.uncatalogued
  meetsNoLimit := by
    refine List.forall_mem_append.mpr ⟨flat.meetsNoLimit, ?_⟩
    simpa using noLimit

theorem append
    {label : String}
    {span : Span}
    {value : Value}
    (flat : message.IsFlat)
    (uncatalogued : Element.IsUncatalogued ⟨none, label, span, value⟩) :
    (message.append label span value).IsFlat where
  uncatalogued := by
    refine List.forall_mem_append.mpr ⟨flat.uncatalogued, ?_⟩
    simpa using uncatalogued
  meetsNoLimit := flat.meetsNoLimit

/-- A message of which nothing was found but one thing that is wrong. -/
theorem blankReport
    (isBlank : message.IsBlank)
    (kind : DiagnosticKind)
    (span : Span)
    (noLimit : ∀ limit, kind ≠ .nestingLimit limit) :
    (message.report kind span).IsFlat :=
  (blank isBlank).report kind span noLimit

end Message.IsFlat

/-! ## Headers -/

/-- Octets are the header of a plain message, which tells its layout and the message so far. -/
inductive PlainHeader (message : Message) : List UInt8 → MessageLayout → Message → Prop where
  | mobility {first code : UInt8} {layout : MessageLayout}
      (protocol_eq : Protocol.ofDiscriminator? (Protocol.discriminatorOf first) =
        some .mobilityManagement)
      (layout_eq : MobilityMessage.layout? code = some layout) :
      PlainHeader message [first, code] layout
        { message with
          discriminator := some (Protocol.discriminatorOf first)
          messageType := some code }
  | session {first transaction code : UInt8} {layout : MessageLayout}
      (protocol_eq : Protocol.ofDiscriminator? (Protocol.discriminatorOf first) =
        some .sessionManagement)
      (layout_eq : SessionMessage.layout? code = some layout) :
      PlainHeader message [first, transaction, code] layout
        { message with
          discriminator := some (Protocol.discriminatorOf first)
          bearerIdentity := some (highNibble first)
          transactionIdentity := some transaction
          messageType := some code }

namespace PlainHeader

variable {message told : Message} {front behind : List UInt8} {layout : MessageLayout}

theorem isShipped
    (header : PlainHeader message front layout told) :
    layout.IsShipped := by
  cases header with
  | mobility _ layout_eq =>
      exact MobilityMessage.layout?_isShipped layout_eq
  | session _ layout_eq =>
      exact SessionMessage.layout?_isShipped layout_eq

theorem isBlank
    (header : PlainHeader message front layout told)
    (blank : message.IsBlank) :
    told.IsBlank := by
  cases header with
  | mobility | session =>
      exact ⟨blank.1, blank.2⟩

theorem two_le_length
    (header : PlainHeader message front layout told) :
    2 ≤ front.length := by
  cases header with
  | mobility | session =>
      simp

/-- Behind a header the elements of the message are decoded. -/
theorem decodePlain_eq
    {window : Window}
    (header : PlainHeader message front layout told)
    (shape : window.rest = front ++ behind)
    (scope : Scope) :
    (scope.decodePlain message window).1 =
      (scope.decodeBody layout told (window.advance front.length)).1 := by
  cases header with
  | @mobility first code _ protocol_eq layout_eq =>
      have typed : (window.advance 1).rest = code :: behind := by
        simp [shape]
      simp only [Scope.decodePlain, Window.peek?, shape, List.cons_append, List.head?_cons,
        protocol_eq, Scope.decodeTyped, Window.octet_of_cons typed, layout_eq,
        Window.advance_advance]
      rfl
  | @session first transaction code _ protocol_eq layout_eq =>
      have identified : (window.advance 1).rest = transaction :: code :: behind := by
        simp [shape]
      have typed : (window.advance (1 + 1)).rest = code :: behind := by
        simp [shape]
      simp only [Scope.decodePlain, Window.peek?, shape, List.cons_append, List.head?_cons,
        protocol_eq, Scope.decodeSession, Window.octet_of_cons identified, Scope.decodeTyped,
        Window.octet_of_cons typed, layout_eq, Window.advance_advance]
      rfl

end PlainHeader

/-- Whatever the scope, decoding comes to one message without elements of a catalogue. -/
def Closes (decode : Scope → Message) : Prop :=
  ∃ closed : Message, closed.IsFlat ∧ ∀ scope, decode scope = closed

namespace Scope

variable {message : Message}

/-- A message without a known type is complete. -/
theorem decodeTyped_cases
    (layout? : UInt8 → Option MessageLayout)
    (blank : message.IsBlank)
    (window : Window) :
    (∃ code behind layout, window.rest = code :: behind ∧ layout? code = some layout) ∨
      Closes fun scope => (scope.decodeTyped layout? message window).1 := by
  cases shape : window.rest with
  | nil =>
      refine .inr ⟨_, .blankReport blank (.missingMandatory "Message type")
        ⟨window.position, window.position⟩ (by simp), fun scope => ?_⟩
      simp only [decodeTyped, Window.octet_of_nil shape]
  | cons code behind =>
      cases found : layout? code with
      | none =>
          have typed : Message.IsBlank { message with messageType := some code } :=
            ⟨blank.1, blank.2⟩
          refine .inr ⟨_, .blankReport typed (.unknownMessageType code)
            ⟨window.position, window.position + 1⟩ (by simp), fun scope => ?_⟩
          simp only [decodeTyped, Window.octet_of_cons shape, found]
      | some layout =>
          exact .inl ⟨code, behind, layout, rfl, found⟩

/-- A plain message starts with a header, or it is complete. -/
theorem decodePlain_cases
    (blank : message.IsBlank)
    (window : Window) :
    (∃ front behind layout told,
      window.rest = front ++ behind ∧ PlainHeader message front layout told) ∨
      Closes fun scope => (scope.decodePlain message window).1 := by
  cases shape : window.rest with
  | nil =>
      refine .inr ⟨_, .blankReport blank (.missingMandatory "Protocol discriminator")
        ⟨window.position, window.position⟩ (by simp), fun scope => ?_⟩
      simp only [decodePlain, Window.peek?, shape, List.head?_nil]
  | cons first others =>
      have advanced : (window.advance 1).rest = others := by
        simp [shape]
      simp only [decodePlain, Window.peek?, shape, List.head?_cons]
      split
      · rename_i protocol_eq
        let identified : Message :=
          { message with
            discriminator := some (Protocol.discriminatorOf first)
            bearerIdentity := some (highNibble first) }
        cases others with
        | nil =>
            have blank : identified.IsBlank :=
              ⟨blank.1, blank.2⟩
            refine .inr ⟨_, .blankReport blank
              (.missingMandatory "Procedure transaction identity")
              ⟨(window.advance 1).position, (window.advance 1).position⟩ (by simp),
              fun scope => ?_⟩
            simp only [decodeSession, Window.octet_of_nil advanced]
            rfl
        | cons transaction others =>
            have behindTransaction : ((window.advance 1).advance 1).rest = others := by
              simp [shape]
            have blank :
                Message.IsBlank { identified with transactionIdentity := some transaction } :=
              ⟨blank.1, blank.2⟩
            simp only [decodeSession, Window.octet_of_cons advanced]
            rcases decodeTyped_cases SessionMessage.layout? blank ((window.advance 1).advance 1)
              with ⟨code, behind, layout, typed, layout_eq⟩ | closes
            · obtain rfl := behindTransaction.symm.trans typed
              exact .inl ⟨_, behind, layout, _, rfl, .session protocol_eq layout_eq⟩
            · exact .inr closes
      · rename_i protocol_eq
        have told :
            Message.IsBlank { message with
              discriminator := some (Protocol.discriminatorOf first) } :=
          ⟨blank.1, blank.2⟩
        rcases decodeTyped_cases MobilityMessage.layout? told (window.advance 1)
          with ⟨code, behind, layout, typed, layout_eq⟩ | closes
        · obtain rfl := advanced.symm.trans typed
          exact .inl ⟨_, behind, layout, _, rfl, .mobility protocol_eq layout_eq⟩
        · exact .inr closes
      · have told :
            Message.IsBlank { message with
              discriminator := some (Protocol.discriminatorOf first)
              name := some Protocol.testProcedures.name } :=
          ⟨blank.1, blank.2⟩
        refine .inr ⟨_, Message.IsFlat.append (.blank told) ?_, fun scope => rfl⟩
        exact .plain (by simp) trivial
      · have told :
            Message.IsBlank { message with
              discriminator := some (Protocol.discriminatorOf first) } :=
          ⟨blank.1, blank.2⟩
        exact .inr ⟨_, .blankReport told (.wrongDiscriminator _) _ (by simp), fun scope => rfl⟩

end Scope

end LteNas
