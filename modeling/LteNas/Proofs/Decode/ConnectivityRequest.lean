import LteNas.Proofs.Catalogue.Grammar
import LteNas.Proofs.Decode.PlainHeader
import LteNas.Proofs.Element.Members
import LteNas.Proofs.ElementValue.Connecting
import LteNas.Proofs.ElementValue.Bearer
import LteNas.Proofs.Text.Utf8

namespace LteNas

/-!
# Requests for a connection

A terminal requests a connection to a network, perhaps by the name of an access
point and with options.  What it wrote is what is read.
-/

/-! ## Messages that a catalogue spells -/

/-- Behind a header, members that are read show all that there is. -/
theorem PlainHeader.decodePlain_read
    {message told : Message}
    {front octets : List UInt8}
    {layout : MessageLayout}
    {entries : Catalogue}
    {members : List Member}
    {shown : List (String × Value)}
    {scope : Scope}
    {window : Window}
    (header : PlainHeader message front layout told)
    (body_eq : layout.body = .catalogue entries)
    (shape : window.rest = front ++ octets)
    (spells : entries.Spells octets members)
    (read : MembersRead scope (window.position + front.length) members shown) :
    ∃ elements,
      shownElements elements = shown ∧
        (scope.decodePlain message window).1 =
          { told with name := some layout.name, elements, diagnostics := [] } := by
  have entries_eq :
      layout.body.entries scope.direction (window.advance front.length) = entries := by
    rw [body_eq]
    rfl
  have shipped := header.isShipped.entries_isShipped scope.direction (window.advance front.length)
  rw [entries_eq] at shipped
  have rest_eq : (window.advance front.length).rest = octets :=
    Window.rest_behind shape
  rw [← rest_eq] at spells
  obtain ⟨elements_eq, diagnostics_eq⟩ := spells.walk_eq scope shipped.unambiguous
  rw [Window.advance_position] at elements_eq diagnostics_eq
  rw [read.shown_eq.2] at diagnostics_eq
  refine ⟨_, read.shown_eq.1, ?_⟩
  rw [header.decodePlain_eq shape, Scope.decodeBody, MessageBody.walk, entries_eq]
  simp only [elements_eq, diagnostics_eq]

/-! ## Requests -/

/-- What a terminal writes into a request for a connection. -/
structure ConnectivityRequest where
  bearer : Fin 16
  transaction : UInt8
  requestType : Fin 16
  connectionKind : Fin 16
  /-- The labels of the name of an access point. -/
  accessPoint : Option (List (List UInt8))
  /-- The octet in front of the options, and the options. -/
  options : Option (UInt8 × List ConfigurationOption)

namespace ConnectivityRequest

def accessPointOctets (labels : List (List UInt8)) : List UInt8 :=
  labels.flatMap sizedOctets

def optionOctets (options : UInt8 × List ConfigurationOption) : List UInt8 :=
  options.1 :: options.2.flatMap ConfigurationOption.octets

/-- The octets of a request, its header included. -/
def octets (request : ConnectivityRequest) : List UInt8 :=
  [joinNibbles (UInt8.ofNat request.bearer) 0x02, request.transaction, 0xD0] ++
    joinNibbles (UInt8.ofNat request.connectionKind) (UInt8.ofNat request.requestType) ::
      (taggedOctets 0x28 (request.accessPoint.map accessPointOctets) ++
        taggedOctets 0x27 (request.options.map optionOctets))

/-- The optional elements of a request fit behind a length in one octet. -/
structure Fits (request : ConnectivityRequest) : Prop where
  accessPoint_lt : ∀ labels ∈ request.accessPoint, (accessPointOctets labels).length < 256
  options_lt : ∀ options ∈ request.options, (optionOctets options).length < 256

theorem Fits.length_lt
    {request : ConnectivityRequest}
    (fits : request.Fits) :
    request.octets.length < 65536 := by
  have accessPoint_lt := taggedOctets_length_lt 0x28 fits.accessPoint_lt
  have options_lt := taggedOctets_length_lt 0x27 fits.options_lt
  simp only [octets, List.length_append, List.length_cons, List.length_nil]
  omega

/-- What is shown of options. -/
def optionsValue (options : UInt8 × List ConfigurationOption) : Value :=
  .fields
    [ flagField "Extension" options.1 8,
      ⟨"Configuration Protocol", codedBy [(0, "PPP")] "Reserved" (options.1 &&& 0x07)⟩,
      ⟨"Containers", .list (options.2.map ConfigurationOption.value)⟩ ]

/-- What is shown of a request. -/
def shown (request : ConnectivityRequest) : List (String × Value) :=
  [ ("Request type", ElementValue.requestType (UInt8.ofNat request.requestType)),
    ("PDN type", ElementValue.connectionKind (UInt8.ofNat request.connectionKind)) ] ++
  ((request.accessPoint.map fun labels =>
      ("Access point name", .text (".".intercalate (labels.map Text.readUtf8)))).toList ++
    ((request.options.map fun options =>
      ("Protocol configuration options", optionsValue options)).toList ++ []))

theorem header_tells :
    ∀ bearer : Fin 16,
      let first := joinNibbles (UInt8.ofNat bearer) 0x02
      Protocol.discriminatorOf first = 0x02 ∧ highNibble first = UInt8.ofNat bearer := by
  decide

/-- The members of a request. -/
def members (request : ConnectivityRequest) : List Member :=
  [ ⟨.lowHalf "Request type" ElementValue.requestType, .half (UInt8.ofNat request.requestType)⟩,
    ⟨.highHalf "PDN type" ElementValue.connectionKind,
      .half (UInt8.ofNat request.connectionKind)⟩ ] ++
  ((ElementSpec.taggedSized 0x28 "Access point name" ElementValue.accessPointName).members
      (request.accessPoint.map accessPointOctets) ++
    ((ElementSpec.taggedSized 0x27 "Protocol configuration options"
        ElementValue.configurationOptions).members
      (request.options.map optionOctets) ++ []))

variable {request : ConnectivityRequest}

theorem spells
    (fits : request.Fits) :
    Catalogue.connectivityRequest.Spells
      (joinNibbles (UInt8.ofNat request.connectionKind) (UInt8.ofNat request.requestType) ::
        (taggedOctets 0x28 (request.accessPoint.map accessPointOctets) ++
          (taggedOctets 0x27 (request.options.map optionOctets) ++ [])))
      request.members := by
  apply Catalogue.Spells.halves
  apply Catalogue.Spells.absent (by decide)
  apply Catalogue.Spells.taggedSized fits.accessPoint_lt
  apply Catalogue.Spells.taggedSized fits.options_lt
  exact .allAbsent (by decide)

theorem read
    (fits : request.Fits)
    (scope : Scope)
    (start : Nat) :
    MembersRead scope start request.members request.shown := by
  apply MembersRead.half
  apply MembersRead.half
  apply MembersRead.optional
  · intro labels given
    exact ElementValue.accessPointName_reads
      (ElementValue.label_fits (fits.accessPoint_lt labels given))
  intro start
  apply MembersRead.optional
  · intro options given
    have lt := fits.options_lt options given
    rw [optionOctets, List.length_cons] at lt
    exact ElementValue.configurationOptions_reads options.1
      (ElementValue.contents_fit (Nat.lt_of_succ_lt lt))
  exact fun start => .nil

/-- A request is decoded to what was written, wherever it stands. -/
theorem decodePlain_eq
    {window : Window}
    (fits : request.Fits)
    (scope : Scope)
    (shape : window.rest = request.octets) :
    ∃ elements,
      shownElements elements = request.shown ∧
        (scope.decodePlain .empty window).1 =
          { Message.empty with
            discriminator := some 0x02
            bearerIdentity := some (UInt8.ofNat request.bearer)
            transactionIdentity := some request.transaction
            messageType := some 0xD0
            name := some "PDN connectivity request"
            elements } := by
  obtain ⟨discriminator_eq, bearer_eq⟩ := header_tells request.bearer
  have protocol_eq :
      Protocol.ofDiscriminator?
          (Protocol.discriminatorOf (joinNibbles (UInt8.ofNat request.bearer) 0x02)) =
        some .sessionManagement := by
    rw [discriminator_eq]
    rfl
  let first := joinNibbles (UInt8.ofNat request.bearer) 0x02
  have header : PlainHeader .empty [first, request.transaction, 0xD0] _ _ :=
    .session protocol_eq rfl
  rw [discriminator_eq, bearer_eq] at header
  have spells := spells fits
  rw [List.append_nil] at spells
  exact header.decodePlain_read rfl shape spells (read fits scope _)

/-! ## Reading a request -/

/-- What was written into a request is read from a message. -/
structure IsReadFrom (request : ConnectivityRequest) (message : Message) : Prop where
  name_eq : message.name = some "PDN connectivity request"
  bearer_eq : message.bearerIdentity = some (UInt8.ofNat request.bearer)
  transaction_eq : message.transactionIdentity = some request.transaction
  requestType_eq :
    (message.value? "Request type").bind Value.number? = some (request.requestType.val % 8)
  connectionKind_eq :
    (message.value? "PDN type").bind Value.number? = some (request.connectionKind.val % 8)
  accessPoint_eq :
    message.value? "Access point name" =
      request.accessPoint.map fun labels =>
        .text (".".intercalate (labels.map Text.readUtf8))
  /-- Labels that are texts are shown as these texts. -/
  accessPointText_eq : ∀ texts : List String,
    request.accessPoint = some (texts.map Text.utf8Octets) →
      message.value? "Access point name" = some (.text (".".intercalate texts))
  options_eq :
    (message.value? "Protocol configuration options").bind (·.field? "Containers") =
      request.options.map fun options => .list (options.2.map ConfigurationOption.value)

theorem halves_tell :
    ∀ nibble : Fin 16,
      (ElementValue.requestType (UInt8.ofNat nibble)).number? = some (nibble.val % 8) ∧
        (ElementValue.connectionKind (UInt8.ofNat nibble)).number? = some (nibble.val % 8) := by
  decide

theorem lookup_accessPoint
    (request : ConnectivityRequest) :
    request.shown.lookup "Access point name" =
      request.accessPoint.map fun labels =>
        .text (".".intercalate (labels.map Text.readUtf8)) := by
  rw [shown]
  cases request.accessPoint with
  | some labels =>
      rfl
  | none =>
      cases request.options with
      | some options | none =>
          rfl

theorem lookup_options
    (request : ConnectivityRequest) :
    request.shown.lookup "Protocol configuration options" =
      request.options.map optionsValue := by
  rw [shown]
  cases request.accessPoint with
  | some labels | none =>
      cases request.options with
      | some options | none =>
          rfl

/-- What is shown of a request carries no message. -/
theorem shown_isPlain
    (request : ConnectivityRequest) :
    ∀ shown ∈ request.shown, shown.2.IsPlain := by
  rw [shown]
  simp only [List.forall_mem_append, List.forall_mem_cons, Option.mem_toList,
    Option.map_eq_some_iff]
  refine ⟨⟨?_, ?_, ?_⟩, ?_, ?_, ?_⟩
  · exact ElementValue.requestType_isPlain _
  · exact ElementValue.connectionKind_isPlain _
  · exact List.forall_mem_nil _
  · rintro _ ⟨labels, -, rfl⟩
    trivial
  · rintro _ ⟨options, -, rfl⟩
    simp [optionsValue, ConfigurationOption.value]
  · exact List.forall_mem_nil _

theorem isReadFrom
    {message : Message}
    (name_eq : message.name = some "PDN connectivity request")
    (bearer_eq : message.bearerIdentity = some (UInt8.ofNat request.bearer))
    (transaction_eq : message.transactionIdentity = some request.transaction)
    (shown_eq : shownElements message.elements = request.shown) :
    request.IsReadFrom message := by
  have value_eq := Message.value?_of_shown shown_eq
  have accessPoint_eq := (value_eq _).trans request.lookup_accessPoint
  refine ⟨name_eq, bearer_eq, transaction_eq, ?_, ?_, accessPoint_eq, ?_, ?_⟩
  · rw [value_eq]
    exact (halves_tell request.requestType).1
  · rw [value_eq]
    exact (halves_tell request.connectionKind).2
  · intro texts given
    have read : (texts.map Text.utf8Octets).map Text.readUtf8 = texts := by
      rw [List.map_map]
      exact List.map_id'' Text.readUtf8_utf8Octets texts
    rw [accessPoint_eq, given, Option.map_some, read]
  · rw [value_eq, lookup_options]
    cases request.options with
    | some options | none =>
        rfl

/-- A request is read from the message that it is decoded to, and nothing is wrong with it. -/
theorem decodePlain_isReadFrom
    {window : Window}
    (fits : request.Fits)
    (scope : Scope)
    (shape : window.rest = request.octets) :
    request.IsReadFrom (scope.decodePlain .empty window).1 ∧
      (scope.decodePlain .empty window).1.allDiagnostics = [] := by
  obtain ⟨elements, shown_eq, decode_eq⟩ := decodePlain_eq fits scope shape
  rw [decode_eq]
  have silent : ∀ shown ∈ request.shown, shown.2.nestedDiagnostics = [] := by
    intro shown member
    exact (request.shown_isPlain shown member).nestedDiagnostics_eq
  exact ⟨isReadFrom rfl rfl rfl shown_eq, Message.allDiagnostics_eq_nil rfl shown_eq silent⟩

end ConnectivityRequest

end LteNas
