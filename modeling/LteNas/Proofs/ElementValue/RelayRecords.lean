import LteNas.Proofs.Element.Fronts
import LteNas.Proofs.ElementValue.Bearer
import LteNas.Proofs.ElementValue.RemoteTerminals
import LteNas.Proofs.Octets.Nibbles

namespace LteNas

/-!
# Records behind a relay

A record is shown as a terminal exactly if it is well-formed.  Any other record stays
as it is and is reported over its own octets.  Either way nothing changes for the
records around it, and if the last one is cut off, that alone is reported besides.
-/

namespace ElementValue

open Reader

/-! ## Finding terminals -/

section Found

variable {window after : Window}

theorem readUserIdentity_found
    {value : Value}
    (read : readUserIdentity window = .ok (value, after)) :
    ∃ identity : UserIdentity, window.rest = sizedOctets identity.octets ++ after.rest := by
  obtain ⟨length, behind, first, read⟩ := bind_eq_ok_iff.mp read
  obtain ⟨body, last, second, read⟩ := bind_eq_ok_iff.mp read
  obtain ⟨small, shape⟩ := number_eq_ok first
  obtain ⟨length_eq, behind_shape⟩ := inner_eq_ok second
  cases body_shape : body.rest with
  | nil =>
      rw [body_shape] at read
      cases read
  | cons head others =>
      rw [body_shape] at read length_eq behind_shape
      cases read
      have others_lt : others.length < 255 := by
        rw [List.length_cons] at length_eq
        omega
      refine ⟨⟨head, others, others_lt⟩, ?_⟩
      rw [shape, behind_shape, ← length_eq, sizedOctets, List.append_assoc]
      rfl

/-- Any octet has spare bits in front of the kind of an address. -/
theorem exists_addressHeader
    (octet : UInt8) :
    ∃ spare : Fin 32, UInt8.ofNat (spare * 8 + (octet &&& 0x07).toNat) = octet := by
  have octet_lt : octet.toNat < 256 := octet.toNat_lt
  have kind_eq : (octet &&& 0x07).toNat = octet.toNat % 8 :=
    lowBits_toNat 3 rfl octet
  have number_eq : octet.toNat / 8 * 8 + octet.toNat % 8 = octet.toNat := by
    omega
  refine ⟨⟨octet.toNat / 8, by omega⟩, ?_⟩
  rw [kind_eq, number_eq, UInt8.ofNat_toNat]

theorem readRemoteAddress_found
    {parts : List Field}
    (read : readRemoteAddress window = .ok (parts, after)) :
    ∃ ending : AddressEnding, window.rest = ending.octets := by
  obtain ⟨octet, behind, first, read⟩ := bind_eq_ok_iff.mp read
  have shape := octet_eq_ok first
  obtain ⟨spare, header_eq⟩ := exists_addressHeader octet
  generalize (octet &&& 0x07).toNat = kind at read header_eq
  match kind with
  | 0 =>
      refine ⟨⟨spare, .unassigned, behind.rest⟩, ?_⟩
      rw [shape, ← header_eq]
      rfl
  | 1 =>
      obtain ⟨_, last, second, -⟩ := bind_eq_ok_iff.mp read
      obtain ⟨address, behind_shape⟩ := vector_of_read second
      refine ⟨⟨spare, .dotted address, last.rest⟩, ?_⟩
      rw [shape, ← header_eq, behind_shape]
      rfl
  | 2 =>
      obtain ⟨_, last, second, -⟩ := bind_eq_ok_iff.mp read
      obtain ⟨identifier, behind_shape⟩ := vector_of_read second
      refine ⟨⟨spare, .interface identifier, last.rest⟩, ?_⟩
      rw [shape, ← header_eq, behind_shape]
      rfl
  | _ + 3 =>
      cases read

/-- Where a terminal is read, the octets are those of one. -/
theorem readRemoteTerminal_found
    {value : Value}
    (small : window.rest.length < 256)
    (read : readRemoteTerminal window = .ok (value, after)) :
    ∃ terminal : RemoteTerminal, terminal.octets = window.rest := by
  obtain ⟨count, behind, first, read⟩ := bind_eq_ok_iff.mp read
  obtain ⟨_, last, second, read⟩ := bind_eq_ok_iff.mp read
  obtain ⟨_, _, third, -⟩ := bind_eq_ok_iff.mp read
  obtain ⟨-, shape⟩ := number_eq_ok first
  obtain ⟨identities, rfl, behind_shape⟩ := times_eq_ok readUserIdentity_found second
  obtain ⟨ending, last_shape⟩ :
      ∃ ending : Option AddressEnding,
        last.rest = (ending.map AddressEnding.octets).getD [] := by
    rcases ifMore_eq_ok third with ⟨empty, -⟩ | ⟨_, fourth⟩
    · exact ⟨none, empty⟩
    · obtain ⟨ending, last_shape⟩ := readRemoteAddress_found fourth
      exact ⟨some ending, last_shape⟩
  have octets_eq : remoteTerminalOctets identities ending = window.rest := by
    rw [shape, behind_shape, last_shape, remoteTerminalOctets]
  exact ⟨⟨identities, ending, by rwa [octets_eq]⟩, octets_eq⟩

end Found

/-! ## Records alone -/

/-- What reading a record alone comes to. -/
def recordReading (record : List UInt8) : Except Fault Value :=
  (readRemoteTerminal (.ofOctets record 0)).map Prod.fst

/-- What is shown of a record. -/
def recordValue (record : List UInt8) : Value :=
  match recordReading record with
  | .ok terminal => terminal
  | .error _ => .octets record

/-- What is reported about a record that stands at a position. -/
def recordFindings (position : Nat) (record : List UInt8) : List Diagnostic :=
  match recordReading record with
  | .ok _ =>
      []
  | .error fault =>
      [⟨.malformedElement "Remote UE context" fault.message,
        ⟨position, position + record.length⟩⟩]

/-- A record that fits behind its length is read exactly if it is that of a terminal. -/
theorem recordReading_eq_ok_iff
    {record : List UInt8}
    {value : Value}
    (small : record.length < 256) :
    recordReading record = .ok value ↔
      ∃ terminal : RemoteTerminal, terminal.octets = record ∧ terminal.value = value := by
  have shape := Window.ofOctets_rest record 0
  rw [recordReading]
  constructor
  · intro read
    cases outcome : readRemoteTerminal (.ofOctets record 0) with
    | error fault =>
        rw [outcome] at read
        cases read
    | ok found =>
        rw [outcome] at read
        cases read
        obtain ⟨terminal, rfl⟩ := readRemoteTerminal_found small outcome
        obtain ⟨after, terminalRead⟩ := readRemoteTerminal_reads terminal shape
        rw [outcome] at terminalRead
        cases terminalRead
        exact ⟨terminal, rfl, rfl⟩
  · rintro ⟨terminal, rfl, rfl⟩
    obtain ⟨after, read⟩ := readRemoteTerminal_reads terminal shape
    rw [read]
    rfl

/-- A record alone is shown as the terminal that it is, or as it is, with a finding over all of it. -/
structure IsShownAlone (record : List UInt8) : Prop where
  ofTerminal : ∀ terminal : RemoteTerminal, terminal.octets = record →
    recordReading record = .ok terminal.value ∧
      recordValue record = terminal.value ∧
      ∀ position, recordFindings position record = []
  ofOther : (∀ terminal : RemoteTerminal, terminal.octets ≠ record) →
    ∃ fault,
      recordReading record = .error fault ∧
        recordValue record = .octets record ∧
        ∀ position,
          recordFindings position record =
            [⟨.malformedElement "Remote UE context" fault.message,
              ⟨position, position + record.length⟩⟩]

theorem isShownAlone
    {record : List UInt8}
    (small : record.length < 256) :
    IsShownAlone record where
  ofTerminal terminal octets_eq := by
    have read := (recordReading_eq_ok_iff small).mpr ⟨terminal, octets_eq, rfl⟩
    refine ⟨read, ?_, fun position => ?_⟩
    · rw [recordValue, read]
    · rw [recordFindings, read]
  ofOther none := by
    cases read : recordReading record with
    | error fault =>
        refine ⟨fault, rfl, ?_, fun position => ?_⟩
        · rw [recordValue, read]
        · rw [recordFindings, read]
    | ok value =>
        obtain ⟨terminal, octets_eq, -⟩ := (recordReading_eq_ok_iff small).mp read
        exact absurd octets_eq (none terminal)

/-- Where a record stands makes no difference to what is shown of it. -/
theorem remoteTerminalValue_ofOctets
    (record : List UInt8)
    (position : Nat) :
    remoteTerminalValue (.ofOctets record position) =
      (recordValue record, recordFindings position record) := by
  let site : Site := ⟨⟨0, record.length⟩, ⟨position, 0⟩⟩
  have sees : site.Sees (.ofOctets record 0) (.ofOctets record position) := by
    refine ⟨Nat.zero_le _, Nat.le_of_eq (Nat.zero_add _), ?_⟩
    rw [← Window.ofOctets_displaced, Nat.zero_add]
  have agree := readRemoteTerminal_steady _ _ sees
  rw [remoteTerminalValue, recordValue, recordFindings, recordReading]
  generalize readRemoteTerminal (.ofOctets record 0) = alone,
    readRemoteTerminal (.ofOctets record position) = placed at agree ⊢
  cases agree with
  | error =>
      rfl
  | ok values _ =>
      obtain ⟨rfl, -⟩ := values
      rfl

/-! ## Records in a list -/

/-- What is reported about records, the length of the first one standing at a position. -/
def recordListFindings : Nat → List (List UInt8) → List Diagnostic
  | _, [] =>
      []
  | position, record :: records =>
      recordFindings (position + 1) record ++
        recordListFindings (position + 1 + record.length) records

/-- Records behind their lengths are shown one by one. -/
theorem remoteWindows_shown
    (position : Nat)
    (records : List (List UInt8)) :
    let terminals := (remoteWindows position records).map remoteTerminalValue
    terminals.map Prod.fst = records.map recordValue ∧
      terminals.flatMap Prod.snd = recordListFindings position records := by
  induction records generalizing position with
  | nil =>
      exact ⟨rfl, rfl⟩
  | cons record records inductionHypothesis =>
      have length_eq :
          position + (sizedOctets record).length = position + 1 + record.length := by
        rw [sizedOctets, List.length_append, bigEndianOctets_length, Nat.add_assoc]
      obtain ⟨values_eq, findings_eq⟩ := inductionHypothesis (position + 1 + record.length)
      dsimp only
      rw [remoteWindows, placedRecords, List.map_cons, remoteTerminalValue_ofOctets, length_eq]
      refine ⟨?_, ?_⟩
      · rw [List.map_cons, List.map_cons, ← values_eq]
        rfl
      · rw [List.flatMap_cons, recordListFindings, ← findings_eq]
        rfl

/-- A record that lacks octets cannot be kept as a window. -/
theorem readRemoteWindow_fails
    {record tail : List UInt8}
    (small : record.length < 256)
    (started : tail ≠ [])
    (front : IsProperFront tail (sizedOctets record)) :
    ∃ shortage, readRemoteWindow.Fails tail (.tooShort shortage) := by
  obtain ⟨others, rfl, few⟩ := front.exists_of_sized started
  have fails :
      (Reader.inner record.length).Fails others (.tooShort ⟨record.length, others.length⟩) := by
    intro window shape
    have tooFew : ¬ record.length ≤ window.remaining := by
      rw [Window.remaining, shape]
      omega
    rw [Reader.inner, ofRead, Window.inner_eq, if_neg tooFew, Window.remaining, shape]
    rfl
  exact ⟨_, (number_parses small).bind_fails fails⟩

/-- The run keeps the records in front of one that cannot be kept. -/
theorem run_remoteWindows_of_cut
    {records : List (List UInt8)}
    {tail : List UInt8}
    {window : Window}
    {fault : Fault}
    (small : ∀ record ∈ records, record.length < 256)
    (started : tail ≠ [])
    (fails : readRemoteWindow.Fails tail fault)
    (shape : window.rest = records.flatMap sizedOctets ++ tail) :
    window.run readRemoteWindow (records.length + 1) =
      ⟨remoteWindows window.position records,
        window.advance (records.flatMap sizedOctets).length,
        some fault⟩ := by
  have tail_shape : (window.advance (records.flatMap sizedOctets).length).rest = tail :=
    Window.rest_behind shape
  have behindMore : (window.advance (records.flatMap sizedOctets).length).rest ≠ [] := by
    rwa [tail_shape]
  rw [run_remoteWindows small 1 shape, Window.run_of_fault behindMore (fails _ tail_shape)]
  dsimp only
  rw [List.append_nil]

/-- The records of a list are kept and the one in which it ends is reported. -/
theorem remoteTerminals_of_cut
    {records : List (List UInt8)}
    {last tail : List UInt8}
    (few : records.length + 1 < 256)
    (small : ∀ record ∈ records, record.length < 256)
    (lastSmall : last.length < 256)
    (started : tail ≠ [])
    (front : IsProperFront tail (sizedOctets last))
    (scope : Scope)
    (base : Nat) :
    let whole := bigEndianOctets 1 (records.length + 1) ++ records.flatMap sizedOctets
    let terminals := (remoteWindows (base + 1) records).map remoteTerminalValue
    remoteTerminals scope (.ofOctets (whole ++ tail) base) =
      ⟨.ok (.list (terminals.map Prod.fst), (Window.ofOctets (whole ++ tail) base).exhaust),
        terminals.flatMap Prod.snd ++
          [⟨.outOfBounds "Remote UE context",
            ⟨base + whole.length, base + (whole ++ tail).length⟩⟩],
        scope.containerType⟩ := by
  intro whole terminals
  obtain ⟨shortage, fails⟩ := readRemoteWindow_fails lastSmall started front
  generalize list_eq : Window.ofOctets (whole ++ tail) base = list
  have list_shape : list.rest = whole ++ tail := by
    rw [← list_eq, Window.ofOctets_rest]
  have list_position : list.position = base := by
    rw [← list_eq, Window.ofOctets_position]
  have counted : Reader.number 1 list = .ok (records.length + 1, list.advance 1) :=
    number_parses few _ (records.flatMap sizedOctets ++ tail)
      (by rw [list_shape, List.append_assoc])
  have records_shape : (list.advance 1).rest = records.flatMap sizedOctets ++ tail := by
    rw [Window.advance_rest, list_shape]
    rfl
  have reached :
      (list.advance 1).advance (records.flatMap sizedOctets).length =
        list.advance whole.length := by
    rw [Window.advance_advance, List.length_append, bigEndianOctets_length]
  have behind_position : (list.advance 1).position = base + 1 := by
    rw [Window.advance_position, list_position]
  have found := run_remoteWindows_of_cut small started fails records_shape
  rw [reached, behind_position] at found
  obtain ⟨complaint_eq, after_eq⟩ :=
    RecordRun.of_cut list_shape (remoteWindows (base + 1) records) shortage "Remote UE context"
  have cutOff_eq := Window.ofOctets_cutOff "Remote UE context" whole tail base
  rw [list_eq] at cutOff_eq
  rw [remoteTerminals_of_run counted found scope]
  dsimp only
  rw [Option.isSome_some, if_pos rfl, complaint_eq, cutOff_eq]
  have exhausted : (list.advance whole.length).exhaust = list.exhaust :=
    after_eq
  rw [exhausted]

/--
Records that fit behind their lengths are shown and reported one by one, each as it is
alone.  Nothing else is reported, unless the octets end inside a further record that
the number in front of all counts: then there is one finding, over what is there of it.
-/
theorem remoteTerminals_isolate
    {records : List (List UInt8)}
    (small : ∀ record ∈ records, record.length < 256)
    (scope : Scope)
    (base : Nat) :
    (∀ record ∈ records, IsShownAlone record) ∧
      (records.length < 256 →
        let octets := bigEndianOctets 1 records.length ++ records.flatMap sizedOctets
        remoteTerminals scope (.ofOctets octets base) =
          ⟨.ok (.list (records.map recordValue), (Window.ofOctets octets base).exhaust),
            recordListFindings (base + 1) records,
            scope.containerType⟩) ∧
      ∀ last tail : List UInt8,
        records.length + 1 < 256 →
          last.length < 256 →
            tail ≠ [] →
              IsProperFront tail (sizedOctets last) →
                let whole :=
                  bigEndianOctets 1 (records.length + 1) ++ records.flatMap sizedOctets
                remoteTerminals scope (.ofOctets (whole ++ tail) base) =
                  ⟨.ok (.list (records.map recordValue),
                      (Window.ofOctets (whole ++ tail) base).exhaust),
                    recordListFindings (base + 1) records ++
                      [⟨.outOfBounds "Remote UE context",
                        ⟨base + whole.length, base + (whole ++ tail).length⟩⟩],
                    scope.containerType⟩ := by
  obtain ⟨values_eq, findings_eq⟩ := remoteWindows_shown (base + 1) records
  refine ⟨fun record member => isShownAlone (small record member), fun few => ?_, ?_⟩
  · have read := remoteTerminals_of_records few small scope base
    dsimp only at read
    rwa [values_eq, findings_eq] at read
  · intro last tail few lastSmall started front
    have read := remoteTerminals_of_cut few small lastSmall started front scope base
    dsimp only at read
    rwa [values_eq, findings_eq] at read

/--
A terminal, an address of a kind that no terminal has and no octets at all, as a whole
list and in front of a record of five octets of which one is there.
-/
theorem remoteTerminals_isolate_three :
    let last : List UInt8 := [0x00, 0x01, 0x0A, 0x00, 0x01]
    let shown : Value :=
      .list
        [ .fields
            [ ⟨"User identities",
                .list
                  [ .fields
                      [ ⟨"Type of user identity", .coded 2 "IMSI"⟩,
                        ⟨"Odd/even indication", .flag true⟩,
                        ⟨"Identity digits", .digits "123"⟩ ] ]⟩ ],
          .octets [0x00, 0x03],
          .octets [] ]
    let findings : List Diagnostic :=
      [ ⟨.malformedElement "Remote UE context" "Invalid value: remote UE address type 3",
          ⟨13, 15⟩⟩,
        ⟨.malformedElement "Remote UE context"
            "Buffer too short: expected at least 1 bytes, got 0",
          ⟨16, 16⟩⟩ ]
    IsProperFront [0x05, 0x00] (sizedOctets last) ∧
      ∀ scope : Scope,
        remoteTerminals scope
              (.ofOctets [0x03, 0x04, 0x01, 0x02, 0x1A, 0x32, 0x02, 0x00, 0x03, 0x00] 6) =
            ⟨.ok (shown, ⟨6, 10, []⟩), findings, scope.containerType⟩ ∧
          remoteTerminals scope
              (.ofOctets
                [0x04, 0x04, 0x01, 0x02, 0x1A, 0x32, 0x02, 0x00, 0x03, 0x00, 0x05, 0x00]
                6) =
            ⟨.ok (shown, ⟨6, 12, []⟩),
              findings ++ [⟨.outOfBounds "Remote UE context", ⟨16, 18⟩⟩],
              scope.containerType⟩ := by
  intro last shown findings
  have front : IsProperFront [0x05, 0x00] (sizedOctets last) :=
    ⟨by decide, by decide⟩
  refine ⟨front, fun scope => ?_⟩
  obtain ⟨-, whole, cut⟩ :=
    remoteTerminals_isolate
      (show ∀ record ∈ ([[0x01, 0x02, 0x1A, 0x32], [0x00, 0x03], []] : List (List UInt8)),
          record.length < 256 by
        decide)
      scope 6
  exact ⟨whole (by decide), cut last _ (by decide) (by decide) (by decide) front⟩

end ElementValue

end LteNas
