import LteNas.Proofs.Element.Grammar
import LteNas.Proofs.Element.Parsing
import LteNas.Proofs.Message.Lookup
import LteNas.Proofs.Octets.Nibbles

namespace LteNas

/-!
# Members that are read

An optional element is written or left out.  A member whose decoder reads its
octets contributes an element with their value, and nothing is reported of it.
-/

/-- An optional value behind its tag and its length. -/
def taggedOctets (tag : UInt8) : Option (List UInt8) → List UInt8
  | none => []
  | some value => tag :: sizedOctets value

theorem taggedOctets_length_lt
    {Item : Type}
    {item? : Option Item}
    {encode : Item → List UInt8}
    (tag : UInt8)
    (fits : ∀ item ∈ item?, (encode item).length < 256) :
    (taggedOctets tag (item?.map encode)).length < 258 := by
  cases item? with
  | none =>
      exact Nat.zero_lt_succ _
  | some item =>
      have item_lt := fits item rfl
      simp only [Option.map_some, taggedOctets, sizedOctets, List.length_cons,
        List.length_append, bigEndianOctets_length]
      omega

/-- The member of an optional value. -/
def ElementSpec.members (entry : ElementSpec) (value? : Option (List UInt8)) : List Member :=
  (value?.map fun value => ⟨entry, .value value⟩).toList

namespace Catalogue.Spells

variable {entries : Catalogue} {octets : List UInt8} {members : List Member} {label : String}
  {decode : OctetDecoder}

/-- Optional entries may all be left out. -/
theorem allAbsent
    (optional : ∀ entry ∈ entries, ¬ entry.format.IsMandatory) :
    Spells entries [] [] := by
  induction entries with
  | nil =>
      exact .nil
  | cons entry entries inductionHypothesis =>
      rw [List.forall_mem_cons] at optional
      exact .absent optional.1 (inductionHypothesis optional.2)

/-- Two halves of an octet. -/
theorem halves
    {otherLabel : String}
    {decodeLow decodeHigh : NibbleDecoder}
    (high low : Fin 16)
    (spells : Spells entries octets members) :
    Spells (.lowHalf label decodeLow :: .highHalf otherLabel decodeHigh :: entries)
      (joinNibbles (UInt8.ofNat high) (UInt8.ofNat low) :: octets)
      (⟨.lowHalf label decodeLow, .half (UInt8.ofNat low)⟩ ::
        ⟨.highHalf otherLabel decodeHigh, .half (UInt8.ofNat high)⟩ :: members) := by
  let octet := joinNibbles (UInt8.ofNat high) (UInt8.ofNat low)
  have pair :
      Spells (.lowHalf label decodeLow :: .highHalf otherLabel decodeHigh :: entries)
        (octet :: octets)
        (⟨.lowHalf label decodeLow, .half (lowNibble octet)⟩ ::
          ⟨.highHalf otherLabel decodeHigh, .half (highNibble octet)⟩ :: members) :=
    .pair rfl rfl spells
  obtain ⟨high_eq, low_eq⟩ := halves_of_joinNibbles high low
  rwa [high_eq, low_eq] at pair

theorem sized
    {value : List UInt8}
    (fits : value.length < 256)
    (spells : Spells entries octets members) :
    Spells (.sized label decode :: entries) (sizedOctets value ++ octets)
      (⟨.sized label decode, .value value⟩ :: members) :=
  .present ⟨fits, rfl⟩ spells

theorem sizedExtended
    {value : List UInt8}
    (fits : value.length < 65536)
    (spells : Spells entries octets members) :
    Spells (.sizedExtended label decode :: entries)
      (bigEndianOctets 2 value.length ++ value ++ octets)
      (⟨.sizedExtended label decode, .value value⟩ :: members) :=
  .present ⟨fits, rfl⟩ spells

theorem taggedSized
    {Item : Type}
    {tag : UInt8}
    {item? : Option Item}
    {encode : Item → List UInt8}
    (fits : ∀ item ∈ item?, (encode item).length < 256)
    (spells : Spells entries octets members) :
    Spells (.taggedSized tag label decode :: entries)
      (taggedOctets tag (item?.map encode) ++ octets)
      ((ElementSpec.taggedSized tag label decode).members (item?.map encode) ++ members) := by
  cases item? with
  | none =>
      exact .absent (fun none => (nomatch none)) spells
  | some item =>
      exact .present ⟨fits item rfl, rfl⟩ spells

end Catalogue.Spells

/-! ## What members show -/

/-- Members that follow each other from a start on are read, and show labels and values. -/
inductive MembersRead (scope : Scope) : Nat → List Member → List (String × Value) → Prop where
  | nil {start : Nat} :
      MembersRead scope start [] []
  | half {start : Nat} {entry : ElementSpec} {nibble : UInt8} {members : List Member}
      {shown : List (String × Value)}
      (others : MembersRead scope (start + entry.format.halfLength) members shown) :
      MembersRead scope start (⟨entry, .half nibble⟩ :: members)
        ((entry.label, entry.decoder.decodeNibble nibble) :: shown)
  | value {start : Nat} {entry : ElementSpec} {octets : List UInt8} {value : Value}
      {after : Window} {members : List Member} {shown : List (String × Value)}
      (read :
        entry.decoder.decodeOctets scope (.ofOctets octets (start + entry.format.headerLength)) =
          ⟨.ok (value, after), [], scope.containerType⟩)
      (others :
        MembersRead scope (start + entry.format.headerLength + octets.length) members shown) :
      MembersRead scope start (⟨entry, .value octets⟩ :: members) ((entry.label, value) :: shown)

namespace MembersRead

variable {scope : Scope} {start : Nat} {members : List Member} {shown : List (String × Value)}

theorem reads
    {entry : ElementSpec}
    {octets : List UInt8}
    {value : Value}
    (reads : OctetDecoder.Reads entry.decoder.decodeOctets octets value)
    (others :
      MembersRead scope (start + entry.format.headerLength + octets.length) members shown) :
    MembersRead scope start (⟨entry, .value octets⟩ :: members) ((entry.label, value) :: shown) :=
  .value (reads scope _) others

/-- An optional member shows its value, if there is one. -/
theorem optional
    {Item : Type}
    {entry : ElementSpec}
    {item? : Option Item}
    {encode : Item → List UInt8}
    {make : Item → Value}
    (reads : ∀ item ∈ item?,
      OctetDecoder.Reads entry.decoder.decodeOctets (encode item) (make item))
    (others : ∀ start, MembersRead scope start members shown) :
    MembersRead scope start (entry.members (item?.map encode) ++ members)
      ((item?.map fun item => (entry.label, make item)).toList ++ shown) := by
  cases item? with
  | none =>
      exact others start
  | some item =>
      exact .reads (reads item rfl) (others _)

/-- The elements of members that are read show their values, and nothing is reported. -/
theorem shown_eq
    (read : MembersRead scope start members shown) :
    shownElements (memberElements scope start members) = shown ∧
      memberDiagnostics scope start members = [] := by
  induction read with
  | nil =>
      exact ⟨rfl, rfl⟩
  | half others inductionHypothesis =>
      obtain ⟨elements_eq, diagnostics_eq⟩ := inductionHypothesis
      exact ⟨congrArg (_ :: ·) elements_eq, diagnostics_eq⟩
  | value read others inductionHypothesis =>
      obtain ⟨elements_eq, diagnostics_eq⟩ := inductionHypothesis
      simp only [memberElements, memberDiagnostics, read, ElementSpec.diagnosticsOf,
        List.nil_append]
      exact ⟨congrArg (_ :: ·) elements_eq, diagnostics_eq⟩

end MembersRead

end LteNas
