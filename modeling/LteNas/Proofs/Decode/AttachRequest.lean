import LteNas.Proofs.Decode.ConnectivityRequest
import LteNas.Proofs.Decode.Replay
import LteNas.Proofs.Element.Sessions
import LteNas.Proofs.ElementValue.Capability
import LteNas.Proofs.ElementValue.Identity
import LteNas.Proofs.ElementValue.Subscriber
import LteNas.Proofs.ElementValue.Terminal

namespace LteNas

/-!
# Requests for a registration

A terminal asks for a registration with its identity, its capability and a
request for a connection.  Whatever it wrote is read from the decoded message,
and nothing is wrong with it.
-/

/-- What a terminal writes into a request for a registration. -/
structure AttachRequest where
  attachType : Fin 16
  keySet : Fin 16
  identity : EpsIdentity
  capability : List UInt8
  connection : ConnectivityRequest

namespace AttachRequest

/-- The octets of a request, its header included. -/
def octets (request : AttachRequest) : List UInt8 :=
  let container := request.connection.octets
  [0x07, 0x41] ++
    joinNibbles (UInt8.ofNat request.keySet) (UInt8.ofNat request.attachType) ::
      (sizedOctets request.identity.octets ++
        (sizedOctets request.capability ++ (bigEndianOctets 2 container.length ++ container)))

/-- Every part of a request fits into its element, and no octet that is owed is missing. -/
structure Fits (request : AttachRequest) : Prop where
  identity_fits : request.identity.Fits
  two_le_capability : 2 ≤ request.capability.length
  capability_lt : request.capability.length < 256
  connection_fits : request.connection.Fits

/-- What was written into a request is read from a message. -/
structure IsReadFrom (request : AttachRequest) (message : Message) : Prop where
  name_eq : message.name = some "Attach request"
  attachType_eq :
    (message.value? "EPS attach type").bind Value.number? = some (request.attachType.val % 8)
  keySet_eq :
    ((message.value? "NAS key set identifier").bind (·.field? "NAS key set identifier")).bind
      Value.number? = some (request.keySet.val % 8)
  contextFlag_eq :
    ((message.value? "NAS key set identifier").bind
      (·.field? "Type of security context flag")).bind Value.number? = some (request.keySet.val / 8)
  identity_eq : message.value? "EPS mobile identity" = some request.identity.value
  /-- Every flag is a bit of its octet, and is missing if there is no such octet. -/
  capability_eq : ∀ (index place : Nat) (record : String × List String) (name : String),
    ElementValue.capabilityRecords[index]? = some record → record.2[place]? = some name →
      ((message.value? "UE network capability").bind (·.field? record.1)).bind (·.field? name) =
        request.capability[index]?.map fun octet => .flag (bit octet (8 - place))
  further_eq :
    (message.value? "UE network capability").bind (·.field? "Further capabilities") =
      if request.capability.length ≤ 6 then none else some (.octets (request.capability.drop 6))
  connection_eq :
    ∃ inner,
      message.value? "ESM message container" = some (.message inner) ∧
        request.connection.IsReadFrom inner

/-- The members of a request. -/
def members (request : AttachRequest) : List Member :=
  [ ⟨.lowHalf "EPS attach type" ElementValue.attachType,
      .half (UInt8.ofNat request.attachType)⟩,
    ⟨.highHalf "NAS key set identifier" ElementValue.keySetIdentifier,
      .half (UInt8.ofNat request.keySet)⟩,
    ⟨.sized "EPS mobile identity" ElementValue.epsMobileIdentity,
      .value request.identity.octets⟩,
    ⟨.sized "UE network capability" ElementValue.terminalNetworkCapability,
      .value request.capability⟩,
    ⟨.sizedExtended "ESM message container" ElementValue.sessionMessage,
      .value request.connection.octets⟩ ]

/-- What is shown of a request around the message in its container. -/
def shown (request : AttachRequest) (inner : Message) : List (String × Value) :=
  [ ("EPS attach type", ElementValue.attachType (UInt8.ofNat request.attachType)),
    ("NAS key set identifier", ElementValue.keySetIdentifier (UInt8.ofNat request.keySet)),
    ("EPS mobile identity", request.identity.value),
    ("UE network capability", .fields (ElementValue.capabilityParts request.capability)),
    ("ESM message container", .message inner) ]

variable {request : AttachRequest}

theorem spells
    (fits : request.Fits) :
    Catalogue.attachRequest.Spells
      (joinNibbles (UInt8.ofNat request.keySet) (UInt8.ofNat request.attachType) ::
        (sizedOctets request.identity.octets ++
          (sizedOctets request.capability ++
            (bigEndianOctets 2 request.connection.octets.length ++
              request.connection.octets ++ []))))
      request.members := by
  apply Catalogue.Spells.halves
  apply Catalogue.Spells.sized fits.identity_fits.length_lt
  apply Catalogue.Spells.sized fits.capability_lt
  apply Catalogue.Spells.sizedExtended fits.connection_fits.length_lt
  exact .allAbsent (by decide)

/-- The container of a request for a connection is entered below the limit. -/
theorem sessionMessage_read
    {connection : ConnectivityRequest}
    {setup : Setup}
    (fits : connection.Fits)
    (room : 1 ≤ setup.config.maxNestingDepth)
    (base : Nat) :
    ∃ inner after,
      connection.IsReadFrom inner ∧
        inner.allDiagnostics = [] ∧
        ElementValue.sessionMessage (setup.scope 0) (.ofOctets connection.octets base) =
          ⟨.ok (.message inner, after), [], none⟩ := by
  let content := Window.ofOctets connection.octets base
  obtain ⟨isRead, silent⟩ :=
    connection.decodePlain_isReadFrom fits (setup.scope 1)
      (show content.rest = connection.octets from rfl)
  have nested_eq := setup.scope_nested 0 .bare content
  rw [if_pos (Nat.lt_of_succ_le room)] at nested_eq
  refine ⟨_, ((setup.scope 1).decodePlain .empty content).2, isRead, silent, ?_⟩
  rw [ElementValue.sessionMessage, if_neg (by simp [Setup.scope, Setup.freshScope])]
  exact ElementValue.carriedMessage_of_some nested_eq

/-- Every member of a request is read, the last one as the request for a connection. -/
theorem read
    (fits : request.Fits)
    (setup : Setup)
    (room : 1 ≤ setup.config.maxNestingDepth)
    (start : Nat) :
    ∃ inner,
      request.connection.IsReadFrom inner ∧
        inner.allDiagnostics = [] ∧
        MembersRead (setup.scope 0) start request.members (request.shown inner) := by
  -- the container stands behind its length, the two values and their lengths, and the halves
  let identityStop := start + 0 + 1 + 1 + request.identity.octets.length
  let base := identityStop + 1 + request.capability.length + 2
  obtain ⟨inner, after, isRead, silent, read⟩ :=
    sessionMessage_read fits.connection_fits room base
  refine ⟨inner, isRead, silent, ?_⟩
  apply MembersRead.half
  apply MembersRead.half
  refine .reads (ElementValue.epsMobileIdentity_reads fits.identity_fits) ?_
  refine .reads (ElementValue.terminalNetworkCapability_reads fits.two_le_capability) ?_
  exact .value read .nil

theorem halves_tell :
    ∀ nibble : Fin 16,
      let keySet := ElementValue.keySetIdentifier (UInt8.ofNat nibble)
      (ElementValue.attachType (UInt8.ofNat nibble)).number? = some (nibble.val % 8) ∧
        (keySet.field? "NAS key set identifier").bind Value.number? = some (nibble.val % 8) ∧
        (keySet.field? "Type of security context flag").bind Value.number? =
          some (nibble.val / 8) := by
  decide

/-- Nothing is wrong with what is shown of a request. -/
theorem shown_silent
    {inner : Message}
    (silent : inner.allDiagnostics = []) :
    ∀ shown ∈ request.shown inner, shown.2.nestedDiagnostics = [] := by
  rw [shown]
  simp only [List.forall_mem_cons]
  refine ⟨?_, ?_, ?_, ?_, silent, List.forall_mem_nil _⟩
  · exact (ElementValue.attachType_isPlain _).nestedDiagnostics_eq
  · exact (ElementValue.keySetIdentifier_isPlain _).nestedDiagnostics_eq
  · exact request.identity.value_isPlain.nestedDiagnostics_eq
  · exact Value.IsPlain.nestedDiagnostics_eq (ElementValue.capabilityParts_plain _)

/-- What is shown of a request is what was written into it. -/
theorem isReadFrom
    {message inner : Message}
    (name_eq : message.name = some "Attach request")
    (isRead : request.connection.IsReadFrom inner)
    (shown_eq : shownElements message.elements = request.shown inner) :
    request.IsReadFrom message := by
  have value_eq := Message.value?_of_shown shown_eq
  obtain ⟨keySet_eq, contextFlag_eq⟩ := (halves_tell request.keySet).2
  refine ⟨name_eq, ?_, ?_, ?_, ?_, ?_, ?_, inner, ?_, isRead⟩
  · rw [value_eq]
    exact (halves_tell request.attachType).1
  · rw [value_eq]
    exact keySet_eq
  · rw [value_eq]
    exact contextFlag_eq
  · rw [value_eq]
    rfl
  · intro index place record name record_eq flag_eq
    rw [value_eq]
    exact ElementValue.capability_flag request.capability record_eq flag_eq
  · rw [value_eq]
    exact ElementValue.capability_further request.capability
  · rw [value_eq]
    rfl

end AttachRequest

/--
A request for a registration is decoded without loss, in every direction and under
every configuration that enters its container: its name is known, nothing is wrong
with it at any depth, and all that was written into it is read from the message.
-/
theorem decode_attachRequest
    {request : AttachRequest}
    (fits : request.Fits)
    (direction : Direction)
    {config : Config}
    (room : 1 ≤ config.maxNestingDepth) :
    let message := decode request.octets direction config
    request.IsReadFrom message ∧ message.allDiagnostics = [] := by
  intro message
  let setup := Setup.ofConfig config direction
  let window := Window.ofOctets request.octets 0
  let opened : Message :=
    { Message.empty with
      envelope := some (.plain 0x07)
      discriminator := some 0x07 }
  have read : Envelope.read config.dissectPlain window = .ok (.plain 0x07, window) :=
    Envelope.read_of_mobility _ rfl
  have decode_eq : message = ((setup.scope 0).decodePlain opened window).1 := by
    show ((setup.scope 0).decodeMessage window).1 = _
    rw [Scope.decodeMessage_of_ok read]
    rfl
  have header : PlainHeader opened [0x07, 0x41] ⟨"Attach request", _⟩ _ :=
    .mobility rfl rfl
  obtain ⟨inner, isRead, silent, members⟩ := AttachRequest.read fits setup room 2
  have spells := AttachRequest.spells fits
  rw [List.append_nil] at spells
  have shape : window.rest = [0x07, 0x41] ++ _ := rfl
  obtain ⟨elements, shown_eq, plain_eq⟩ := header.decodePlain_read rfl shape spells members
  rw [decode_eq, plain_eq]
  exact ⟨AttachRequest.isReadFrom rfl isRead shown_eq,
    Message.allDiagnostics_eq_nil rfl shown_eq (AttachRequest.shown_silent silent)⟩

/--
A subscriber whose capability has an octet that no record tells, with an access
point of two labels and two options, below the least limit.
-/
theorem decode_attachRequest_subscriber :
    let request : AttachRequest :=
      { attachType := 0x2
        keySet := 0x7
        identity := .subscriber 0 [0, 1, 0, 1, 0, 1, 2, 3, 4, 5, 6, 7, 8, 9]
        capability := [0xE0, 0xE0, 0xC0, 0x40, 0x80, 0x08, 0x01]
        connection :=
          { bearer := 0
            transaction := 0x01
            requestType := 0x1
            connectionKind := 0x3
            accessPoint := some [[0x69, 0x6D, 0x73], [0x6D, 0x6E, 0x63]]
            options := some (0x80, [⟨0x0003, []⟩, ⟨0x0010, [0x05, 0xDC]⟩]) } }
    let octets : List UInt8 :=
      [0x07, 0x41, 0x72, 0x08, 0x09, 0x10, 0x10, 0x10, 0x32, 0x54, 0x76, 0x98,
        0x07, 0xE0, 0xE0, 0xC0, 0x40, 0x80, 0x08, 0x01, 0x00, 0x19, 0x02, 0x01, 0xD0, 0x31,
        0x28, 0x08, 0x03, 0x69, 0x6D, 0x73, 0x03, 0x6D, 0x6E, 0x63,
        0x27, 0x09, 0x80, 0x00, 0x03, 0x00, 0x00, 0x10, 0x02, 0x05, 0xDC]
    let config := { Config.standard with maxNestingDepth := 1 }
    request.Fits ∧
      1 ≤ config.maxNestingDepth ∧
      request.octets = octets ∧
      request.IsReadFrom (decode octets .downlink config) ∧
      (decode octets .downlink config).allDiagnostics = [] := by
  intro request octets config
  have fits : request.Fits :=
    { identity_fits := show (EpsIdentity.digitOctets 0 _).length < 256 by decide
      two_le_capability := by decide
      capability_lt := by decide
      connection_fits := ⟨by decide, by decide⟩ }
  have room : 1 ≤ config.maxNestingDepth := Nat.le_refl 1
  have octets_eq : request.octets = octets := by
    decide
  have read := decode_attachRequest fits .downlink room
  rw [octets_eq] at read
  exact ⟨fits, room, octets_eq, read⟩

end LteNas
