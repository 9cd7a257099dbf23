import LteNas.Proofs.ElementValue.RemoteTerminals
import LteNas.Proofs.ElementValue.SubscriberDigits

namespace LteNas

/-!
# Dialled identities

An identity that consists of dialled keys has the first of them beside its kind,
and the others two to an octet.  All decoders of such identities read back what
was dialled, however long it is, and whatever stands around it.
-/

namespace ElementValue

/-- The half of an octet that tells the kind of an identity and whether its keys are odd. -/
def typeNibble (kind : UInt8) (isOdd : Bool) : UInt8 :=
  if isOdd then kind + 8 else kind

/-- What is shown of an identity that consists of keys. -/
def dialledIdentityValue (kind : UInt8 × String) (isOdd : Bool) (dialled : String) : Value :=
  .fields
    [ ⟨"Type of identity", .coded kind.1.toNat kind.2⟩,
      ⟨"Odd/even indication", .flag isOdd⟩,
      ⟨kind.2, .digits dialled⟩ ]

/-- What is shown of the identity of the user of a remote terminal. -/
def dialledUserValue (kind : UInt8) (isOdd : Bool) (dialled : String) : Value :=
  .fields
    [ ⟨"Type of user identity", codedBy userIdentityKinds "Reserved" kind⟩,
      ⟨"Odd/even indication", .flag isOdd⟩,
      ⟨"Identity digits", .digits dialled⟩ ]

theorem typeOctet_tells_small :
    ∀ (high : Fin 16) (kind : Fin 8) (isOdd : Bool),
      let octet := joinNibbles (UInt8.ofNat high) (typeNibble (UInt8.ofNat kind) isOdd)
      identityKind octet = UInt8.ofNat kind ∧ bit octet 4 = isOdd ∧
        typeNibble (UInt8.ofNat kind) isOdd < 16 := by
  decide +kernel

section TypeOctets

variable {high kind : UInt8}

/-- An octet with a key in its high half tells the kind and the parity. -/
theorem typeOctet_tells
    (highSmall : high < 16)
    (kindSmall : kind < 8)
    (isOdd : Bool) :
    identityKind (joinNibbles high (typeNibble kind isOdd)) = kind ∧
      bit (joinNibbles high (typeNibble kind isOdd)) 4 = isOdd ∧
      typeNibble kind isOdd < 16 := by
  simpa using typeOctet_tells_small ⟨high.toNat, highSmall⟩ ⟨kind.toNat, kindSmall⟩ isOdd

end TypeOctets

theorem lt_eight_of_digitIdentity :
    ∀ kind ∈ digitIdentityKinds, kind.1 < 8 := by
  decide

theorem lt_eight_of_epsDigit :
    ∀ kind ∈ epsDigitKinds, kind.1 < 8 := by
  decide

section Dialled

variable {first : Char} {others : List Char}

theorem nibble_lt
    (areKeys : ∀ key ∈ first :: others, key ∈ DialledDigits.keys) :
    DialledDigits.nibble first < 16 :=
  have isKey := areKeys first List.mem_cons_self
  (DialledDigits.lt_of_lt_filler (DialledDigits.nibble_of_mem_keys first isKey).1).1

theorem mobileIdentity_reads_dialled
    (areKeys : ∀ key ∈ first :: others, key ∈ DialledDigits.keys)
    {kind : UInt8 × String}
    (known : kind ∈ digitIdentityKinds)
    (isOdd : Bool) :
    OctetDecoder.Reads mobileIdentity
      (DialledDigits.packKeys (typeNibble kind.1 isOdd) first others)
      (dialledIdentityValue kind isOdd (String.ofList (first :: others))) := by
  obtain ⟨kind_eq, parity_eq, lowSmall⟩ :=
    typeOctet_tells (nibble_lt areKeys) (lt_eight_of_digitIdentity kind known) isOdd
  have reads := mobileIdentity_reads_digits known kind_eq
    (DialledDigits.pack (others.map DialledDigits.nibble))
  rwa [digitIdentityValue, flagField, parity_eq,
    DialledDigits.textAfter_packKeys lowSmall areKeys] at reads

theorem epsMobileIdentity_reads_dialled
    (areKeys : ∀ key ∈ first :: others, key ∈ DialledDigits.keys)
    {kind : UInt8 × String}
    (known : kind ∈ epsDigitKinds)
    (isOdd : Bool) :
    OctetDecoder.Reads epsMobileIdentity
      (DialledDigits.packKeys (typeNibble kind.1 isOdd) first others)
      (dialledIdentityValue kind isOdd (String.ofList (first :: others))) := by
  obtain ⟨kind_eq, parity_eq, lowSmall⟩ :=
    typeOctet_tells (nibble_lt areKeys) (lt_eight_of_epsDigit kind known) isOdd
  have reads := epsMobileIdentity_reads_kind known kind_eq
    (DialledDigits.pack (others.map DialledDigits.nibble))
  rwa [flagField, parity_eq, DialledDigits.textWith_packKeys lowSmall areKeys] at reads

theorem userIdentity_value_eq
    (areKeys : ∀ key ∈ first :: others, key ∈ DialledDigits.keys)
    {kind : UInt8}
    (kindSmall : kind < 8)
    {isOdd : Bool}
    {identity : UserIdentity}
    (written :
      identity.octets = DialledDigits.packKeys (typeNibble kind isOdd) first others) :
    identity.value = dialledUserValue kind isOdd (String.ofList (first :: others)) := by
  obtain ⟨kind_eq, parity_eq, lowSmall⟩ :=
    typeOctet_tells (nibble_lt areKeys) kindSmall isOdd
  obtain ⟨first_eq, others_eq⟩ := List.cons.inj written
  rw [UserIdentity.value, first_eq, others_eq, flagField, kind_eq, parity_eq,
    DialledDigits.textAfter_packKeys lowSmall areKeys]
  rfl

end Dialled

/-! ## Identities behind a relay -/

/-- Octets are an identity of a well-formed terminal, whose record stands among any others. -/
structure UserIdentityAt
    (records : List (List UInt8))
    (place : Nat)
    (terminal : RemoteTerminal)
    (index : Nat)
    (octets : List UInt8) :
    Prop where
  few : records.length < 256
  small : ∀ record ∈ records, record.length < 256
  terminal_at : records[place]? = some terminal.octets
  identity_at : terminal.identities[index]?.map UserIdentity.octets = some octets

/-- A list of terminals shows a value among the identities of one of them, both in their places. -/
def ShowsUserIdentity (shown : Value) (place index : Nat) (value : Value) : Prop :=
  ∃ terminals identities address,
    shown = .list terminals ∧
      terminals[place]? = some (.fields (⟨"User identities", .list identities⟩ :: address)) ∧
      identities[index]? = some value

/-- A terminal is shown in its place, whatever the records around it are. -/
theorem remoteTerminals_show
    {records : List (List UInt8)}
    {place index : Nat}
    {terminal : RemoteTerminal}
    {octets : List UInt8}
    (relayed : UserIdentityAt records place terminal index octets)
    (scope : Scope)
    (base : Nat) :
    let list :=
      Window.ofOctets (bigEndianOctets 1 records.length ++ records.flatMap sizedOctets) base
    ∃ terminals,
      (remoteTerminals scope list).outcome = .ok (.list terminals, list.exhaust) ∧
        terminals[place]? = some terminal.value := by
  intro list
  have read := remoteTerminals_of_records relayed.few relayed.small scope base
  refine ⟨_, congrArg Reading.outcome read, ?_⟩
  rw [List.getElem?_map, List.getElem?_map, remoteWindows, placedRecords_getElem?,
    relayed.terminal_at]
  exact congrArg (fun shown => some (Prod.fst shown)) (remoteTerminalValue_eq terminal _)

/--
Keys that were dialled are read back, however many there are: as a mobile identity, as
an identity of the evolved packet system, and as an identity of the user of a remote
terminal, whatever its kind is and whatever stands around it.
-/
theorem dialledIdentity_reads
    {first : Char}
    {others : List Char}
    (areKeys : ∀ key ∈ first :: others, key ∈ DialledDigits.keys)
    (isOdd : Bool) :
    let dialled := String.ofList (first :: others)
    let octets (kind : UInt8) := DialledDigits.packKeys (typeNibble kind isOdd) first others
    (∀ kind ∈ digitIdentityKinds,
        OctetDecoder.Reads mobileIdentity (octets kind.1)
          (dialledIdentityValue kind isOdd dialled)) ∧
      (∀ kind ∈ epsDigitKinds,
        OctetDecoder.Reads epsMobileIdentity (octets kind.1)
          (dialledIdentityValue kind isOdd dialled)) ∧
      ∀ kind < 8, ∀ records place terminal index,
        UserIdentityAt records place terminal index (octets kind) →
          ∀ (scope : Scope) (base : Nat),
            let list :=
              Window.ofOctets (bigEndianOctets 1 records.length ++ records.flatMap sizedOctets) base
            ∃ shown,
              (remoteTerminals scope list).outcome = .ok (shown, list.exhaust) ∧
                ShowsUserIdentity shown place index (dialledUserValue kind isOdd dialled) := by
  intro dialled octets
  refine ⟨fun kind known => mobileIdentity_reads_dialled areKeys known isOdd,
    fun kind known => epsMobileIdentity_reads_dialled areKeys known isOdd, ?_⟩
  intro kind kindSmall records place terminal index stands scope base list
  obtain ⟨terminals, read, shown⟩ := remoteTerminals_show stands scope base
  obtain ⟨identity, identity_at, written⟩ := Option.map_eq_some_iff.mp stands.identity_at
  refine ⟨_, read, terminals, _, _, rfl, shown, ?_⟩
  rw [List.getElem?_map, identity_at, Option.map_some,
    userIdentity_value_eq areKeys kindSmall written]

/-- A remote terminal without an address, whose user has one identity of three keys. -/
def threeKeyTerminal : RemoteTerminal where
  identities := [⟨0x9A, [0x0E], by decide⟩]
  ending := none
  octets_lt := by
    decide

/-- Three keys in each kind of identity; in front of the remote terminal stands an empty record. -/
theorem dialledIdentity_reads_three :
    (∀ key ∈ ['9', 'c', '0'], key ∈ DialledDigits.keys) ∧
      OctetDecoder.Reads mobileIdentity [0x9B, 0x0E]
        (dialledIdentityValue (3, "IMEISV") true "9c0") ∧
      OctetDecoder.Reads epsMobileIdentity [0x99, 0x0E]
        (dialledIdentityValue (1, "IMSI") true "9c0") ∧
      UserIdentityAt [[], threeKeyTerminal.octets] 1 threeKeyTerminal 0 [0x9A, 0x0E] ∧
      ∀ (scope : Scope) (base : Nat),
        let list := Window.ofOctets [0x02, 0x00, 0x04, 0x01, 0x02, 0x9A, 0x0E] base
        ∃ shown,
          (remoteTerminals scope list).outcome = .ok (shown, list.exhaust) ∧
            ShowsUserIdentity shown 1 0 (dialledUserValue 2 true "9c0") := by
  have areKeys : ∀ key ∈ ['9', 'c', '0'], key ∈ DialledDigits.keys := by
    simp [DialledDigits.keys]
  have stands : UserIdentityAt [[], threeKeyTerminal.octets] 1 threeKeyTerminal 0 [0x9A, 0x0E] :=
    ⟨by decide, by decide, rfl, rfl⟩
  obtain ⟨mobile, eps, remote⟩ := dialledIdentity_reads areKeys true
  exact ⟨areKeys, mobile (3, "IMEISV") (by decide), eps (1, "IMSI") (by decide), stands,
    remote 2 (by decide) _ 1 _ 0 stands⟩

end ElementValue

end LteNas
