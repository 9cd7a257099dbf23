import LteNas.ElementValue.Relay
import LteNas.Proofs.Element.Parsing

namespace LteNas

/-!
# Terminals behind a relay

A list of remote terminals is their number and one record for each of them behind
its length.  A record is read alone, where it stands, so that what is shown of a
terminal does not depend on the records around it.  A well-formed record has the
identities of its user, each behind its length, and may end with an address.
-/

open ElementValue

/-! ## Well-formed terminals -/

/-- The identity of a user: a first digit beside the kind, and further digits. -/
structure UserIdentity where
  first : UInt8
  others : List UInt8
  others_lt : others.length < 255

namespace UserIdentity

def octets (identity : UserIdentity) : List UInt8 :=
  identity.first :: identity.others

/-- What is shown of an identity. -/
def value (identity : UserIdentity) : Value :=
  .fields
    [ ⟨"Type of user identity",
        codedBy userIdentityKinds "Reserved" (identityKind identity.first)⟩,
      flagField "Odd/even indication" identity.first 4,
      ⟨"Identity digits", .digits (DialledDigits.textAfter identity.first identity.others)⟩ ]

theorem octets_lt
    (identity : UserIdentity) :
    identity.octets.length < 256 :=
  Nat.succ_lt_succ identity.others_lt

end UserIdentity

/-- The address of a terminal. -/
inductive RemoteAddress where
  | unassigned
  | dotted (address : Vector UInt8 4)
  | interface (identifier : Vector UInt8 8)

namespace RemoteAddress

/-- The number that stands for the kind of an address. -/
def kind : RemoteAddress → Nat
  | .unassigned => 0
  | .dotted _ => 1
  | .interface _ => 2

def body : RemoteAddress → List UInt8
  | .unassigned => []
  | .dotted address => address.toList
  | .interface identifier => identifier.toList

/-- What is shown of an address. -/
def parts : RemoteAddress → List Field
  | .unassigned =>
      remoteAddressFields "No IP Info" 0 none
  | .dotted address =>
      remoteAddressFields "IPv4" 1 (Address.dotted address.toList)
  | .interface identifier =>
      remoteAddressFields "IPv6" 2 (Address.interfaceIdentifier identifier.toList)

theorem kind_lt
    (address : RemoteAddress) :
    address.kind < 8 := by
  cases address <;> simp [kind]

end RemoteAddress

/-- How a record ends behind its identities. -/
structure AddressEnding where
  /-- The bits in front of the kind of the address, which mean nothing. -/
  spare : Fin 32
  address : RemoteAddress
  /-- Octets behind the address, which mean nothing. -/
  skipped : List UInt8

namespace AddressEnding

def header (ending : AddressEnding) : UInt8 :=
  UInt8.ofNat (ending.spare * 8 + ending.address.kind)

def octets (ending : AddressEnding) : List UInt8 :=
  (ending.header :: ending.address.body) ++ ending.skipped

theorem header_kind :
    ∀ (spare : Fin 32) (kind : Fin 8),
      (UInt8.ofNat (spare * 8 + kind) &&& 0x07).toNat = kind := by
  decide

end AddressEnding

/-- The octets of a terminal: the number of its identities, they, and an address if there is one. -/
def remoteTerminalOctets
    (identities : List UserIdentity)
    (ending : Option AddressEnding) :
    List UInt8 :=
  bigEndianOctets 1 identities.length ++
    (identities.flatMap (fun identity => sizedOctets identity.octets) ++
      (ending.map AddressEnding.octets).getD [])

/-- A terminal whose record fits behind its length. -/
structure RemoteTerminal where
  identities : List UserIdentity
  ending : Option AddressEnding
  octets_lt : (remoteTerminalOctets identities ending).length < 256

namespace RemoteTerminal

def octets (terminal : RemoteTerminal) : List UInt8 :=
  remoteTerminalOctets terminal.identities terminal.ending

/-- What is shown of a terminal. -/
def value (terminal : RemoteTerminal) : Value :=
  .fields
    (⟨"User identities", .list (terminal.identities.map UserIdentity.value)⟩ ::
      (terminal.ending.map fun ending => ending.address.parts).getD [])

theorem identities_lt
    (terminal : RemoteTerminal) :
    terminal.identities.length < 256 := by
  have least :=
    length_le_of_takesOctets fun identity (_ : identity ∈ terminal.identities) =>
      sizedOctets_ne_nil identity.octets
  have fits := terminal.octets_lt
  rw [remoteTerminalOctets, List.length_append, List.length_append] at fits
  omega

end RemoteTerminal

namespace ElementValue

open Reader

theorem readUserIdentity_parses
    (identity : UserIdentity) :
    readUserIdentity.Parses (sizedOctets identity.octets) identity.value := by
  apply (number_parses identity.octets_lt).bind
  intro window behind shape
  rw [bind_eq_of_ok (inner_of_append shape)]
  rfl

theorem readRemoteAddress_parses
    (ending : AddressEnding) :
    readRemoteAddress.Parses (ending.header :: ending.address.body) ending.address.parts := by
  obtain ⟨spare, address, skipped⟩ := ending
  have kind_eq := AddressEnding.header_kind spare ⟨address.kind, address.kind_lt⟩
  apply (octet_parses _).bind
  dsimp only [AddressEnding.header]
  rw [kind_eq]
  cases address with
  | unassigned =>
      exact pure_parses _
  | dotted address =>
      exact (vector_parses address).returning _
  | interface identifier =>
      exact (vector_parses identifier).returning _

/-- A terminal is read from its record, wherever the record stands. -/
theorem readRemoteTerminal_reads
    (terminal : RemoteTerminal)
    {window : Window}
    (shape : window.rest = terminal.octets) :
    ∃ after, readRemoteTerminal window = .ok (terminal.value, after) := by
  obtain ⟨identities, ending, fits⟩ := terminal
  have counted :=
    number_parses (RemoteTerminal.identities_lt ⟨identities, ending, fits⟩) window _ shape
  have identities_rest :
      (window.advance 1).rest =
        identities.flatMap (fun identity => sizedOctets identity.octets) ++
          (ending.map AddressEnding.octets).getD [] := by
    rw [Window.advance_rest, shape]
    rfl
  have identified :=
    times_parses (fun identity (_ : identity ∈ identities) => readUserIdentity_parses identity)
      (window.advance 1) _ identities_rest
  rw [readRemoteTerminal, bind_eq_of_ok counted]
  dsimp only
  rw [bigEndianOctets_length, bind_eq_of_ok identified]
  generalize identities.flatMap (fun identity => sizedOctets identity.octets) = front
    at identities_rest
  have ending_rest :
      ((window.advance 1).advance front.length).rest =
        (ending.map AddressEnding.octets).getD [] :=
    Window.rest_behind identities_rest
  cases ending with
  | none =>
      exact ⟨_, bind_eq_of_ok (ifMore_exhausts_nil readRemoteAddress _ ending_rest)⟩
  | some ending =>
      have address :=
        (readRemoteAddress_parses ending).ifMore (List.cons_ne_nil _ _) _ _ ending_rest
      exact ⟨_, bind_eq_of_ok address⟩

theorem remoteTerminalValue_eq
    (terminal : RemoteTerminal)
    (base : Nat) :
    remoteTerminalValue (.ofOctets terminal.octets base) = (terminal.value, []) := by
  obtain ⟨after, read⟩ :=
    readRemoteTerminal_reads terminal (Window.ofOctets_rest terminal.octets base)
  rw [remoteTerminalValue, read]

/-! ## Lists of terminals -/

/-- The windows of records behind their lengths, the first length standing at a position. -/
def remoteWindows : Nat → List (List UInt8) → List Window :=
  placedRecords sizedOctets fun position record => .ofOctets record (position + 1)

theorem readRemoteWindow_eq
    {record behind : List UInt8}
    {window : Window}
    (small : record.length < 256)
    (shape : window.rest = sizedOctets record ++ behind) :
    readRemoteWindow window =
      .ok (.ofOctets record (window.position + 1), window.advance (sizedOctets record).length) := by
  rw [sizedOctets, List.append_assoc] at shape
  have measured := number_parses small window _ shape
  have body_rest : (window.advance 1).rest = record ++ behind := by
    rw [Window.advance_rest, shape]
    rfl
  rw [readRemoteWindow, bind_eq_of_ok measured, bigEndianOctets_length, inner_of_append body_rest,
    Window.advance_advance, Window.advance_position, sizedOctets, List.length_append,
    bigEndianOctets_length]

/-- Records are kept as windows where they stand, and the run goes on behind them. -/
theorem run_remoteWindows
    {records : List (List UInt8)}
    {window : Window}
    {behind : List UInt8}
    (small : ∀ record ∈ records, record.length < 256)
    (more : Nat)
    (shape : window.rest = records.flatMap sizedOctets ++ behind) :
    window.run readRemoteWindow (records.length + more) =
      let others := (window.advance (records.flatMap sizedOctets).length).run readRemoteWindow more
      { others with records := remoteWindows window.position records ++ others.records } :=
  Window.run_placed
    (fun position record => Window.ofOctets record (position + 1))
    (fun record member _ _ => readRemoteWindow_eq (small record member))
    (fun record _ => sizedOctets_ne_nil record) more shape

/-- What is shown and reported of the records that a run behind their number finds. -/
theorem remoteTerminals_of_run
    {list behind : Window}
    {count : Nat}
    {run : RecordRun Window}
    (counted : Reader.number 1 list = .ok (count, behind))
    (found : behind.run readRemoteWindow count = run)
    (scope : Scope) :
    let terminals := run.records.map remoteTerminalValue
    remoteTerminals scope list =
      ⟨.ok (.list (terminals.map Prod.fst), run.tail.exhaust),
        terminals.flatMap Prod.snd ++
          if run.fault.isSome then
            run.complaint "Remote UE context"
          else
            remoteCountComplaint count (terminals.map Prod.fst).length (!run.tail.isEmpty)
              list.remainingSpan,
        scope.containerType⟩ := by
  simp only [remoteTerminals, Reader.reporting, Bind.bind, Except.bind, counted, found]

/-- Records are shown one by one, as many as the number in front of them says. -/
theorem remoteTerminals_of_records
    {records : List (List UInt8)}
    (few : records.length < 256)
    (small : ∀ record ∈ records, record.length < 256)
    (scope : Scope)
    (base : Nat) :
    let octets := bigEndianOctets 1 records.length ++ records.flatMap sizedOctets
    let terminals := (remoteWindows (base + 1) records).map remoteTerminalValue
    remoteTerminals scope (.ofOctets octets base) =
      ⟨.ok (.list (terminals.map Prod.fst), (Window.ofOctets octets base).exhaust),
        terminals.flatMap Prod.snd,
        scope.containerType⟩ := by
  intro octets terminals
  have counted :
      Reader.number 1 (.ofOctets octets base) =
        .ok (records.length, (Window.ofOctets octets base).advance 1) :=
    number_parses few _ _ (Window.ofOctets_rest octets base)
  have records_rest :
      ((Window.ofOctets octets base).advance 1).rest = records.flatMap sizedOctets ++ [] :=
    (List.append_nil _).symm
  have ended :
      ((Window.ofOctets octets base).advance 1).advance (records.flatMap sizedOctets).length =
        (Window.ofOctets octets base).exhaust := by
    rw [Window.advance_advance, Window.exhaust, Window.remaining, Window.ofOctets_rest,
      List.length_append, bigEndianOctets_length]
  have found :
      ((Window.ofOctets octets base).advance 1).run readRemoteWindow records.length =
        ⟨remoteWindows (base + 1) records, (Window.ofOctets octets base).exhaust, none⟩ := by
    have run := run_remoteWindows small 0 records_rest
    rw [Nat.add_zero, Window.run, ended] at run
    simpa only [List.append_nil, Window.advance_position, Window.ofOctets_position] using run
  have exhausted : (Window.ofOctets octets base).exhaust.rest = [] :=
    List.drop_length
  have complete : (terminals.map Prod.fst).length = records.length := by
    rw [List.length_map, List.length_map, remoteWindows, placedRecords_length]
  have silent (span : Span) :
      remoteCountComplaint records.length (terminals.map Prod.fst).length
        (!(Window.ofOctets octets base).exhaust.isEmpty) span = [] := by
    rw [remoteCountComplaint, complete, Window.isEmpty, exhausted]
    simp
  rw [remoteTerminals_of_run counted found scope]
  dsimp only
  rw [Window.exhaust_of_rest_nil exhausted, Option.isSome_none, if_neg Bool.false_ne_true, silent,
    List.append_nil]

end ElementValue

end LteNas
