import LteNas.Proofs.Element.Parsing
import LteNas.Proofs.ElementValue.Terminal
import LteNas.Proofs.Message.Lookup

namespace LteNas

/-!
# Reading the capability of a terminal

Each of the first octets is a record of flags, and what stands behind them is
kept as it is.
-/

namespace ElementValue

open Reader

/-! ## Parts of a capability -/

theorem readEpsAlgorithms_parses
    (ciphering integrity : UInt8) :
    readEpsAlgorithms.Parses [ciphering, integrity]
      [ flagRecord "EPS encryption algorithms" epsCipheringNames ciphering,
        flagRecord "EPS integrity algorithms" epsIntegrityNames integrity ] := by
  apply Parses.expectAtLeast (Nat.le_refl 2)
  apply (octet_parses ciphering).bind
  exact (octet_parses integrity).returning _

/-- A record is there if an octet is, and the readers behind it start at the next one. -/
theorem readRecord_bind_exhausts
    {α : Type}
    {record : UInt8 → Field}
    {next : List Field → Reader α}
    {octets : List UInt8}
    {last : α}
    (back : (next (octets.head?.map record).toList).Exhausts octets.tail last) :
    (readRecord record >>= next).Exhausts octets last := by
  cases octets with
  | nil =>
      exact ((ifMore_exhausts_nil Reader.octet).returning _).bind back
  | cons octet octets =>
      have read := (octet_parses octet).ifMore (List.cons_ne_nil octet [])
      exact (read.returning _).bind_exhausts back

/-- The field of octets that may be missing. -/
def furtherFields (name : String) (octets : List UInt8) : List Field :=
  if octets.isEmpty then [] else [octetsField name octets]

theorem readFurther_exhausts
    (name : String)
    (octets : List UInt8) :
    (readFurther name).Exhausts octets (furtherFields name octets) := by
  cases octets with
  | nil =>
      exact (ifMore_exhausts_nil Reader.rest).returning _
  | cons octet octets =>
      exact ((rest_exhausts _).ifMore (List.cons_ne_nil octet octets)).returning _

/-! ## The capability of a terminal -/

/-- The records of a capability, one to an octet, with the names of their flags. -/
def capabilityRecords : List (String × List String) :=
  [ ("EPS encryption algorithms", epsCipheringNames),
    ("EPS integrity algorithms", epsIntegrityNames),
    ("UMTS encryption algorithms", umtsCipheringNames),
    ("UMTS integrity algorithms", umtsIntegrityNames),
    ("Features", terminalFeatureNames),
    ("CIoT features", thingFeatureNames) ]

def capabilityParts (octets : List UInt8) : List Field :=
  List.zipWith (fun record octet => flagRecord record.1 record.2 octet) capabilityRecords octets ++
    furtherFields "Further capabilities" (octets.drop 6)

/-- Two octets are owed, and all others may be missing. -/
theorem terminalNetworkCapability_reads
    {octets : List UInt8}
    (least : 2 ≤ octets.length) :
    OctetDecoder.Reads terminalNetworkCapability octets (.fields (capabilityParts octets)) := by
  obtain ⟨ciphering, integrity, octets, rfl⟩ :
      ∃ ciphering integrity others, octets = ciphering :: integrity :: others := by
    match octets, least with
    | ciphering :: integrity :: others, _ =>
        exact ⟨ciphering, integrity, others, rfl⟩
  have parts_eq :
      capabilityParts (ciphering :: integrity :: octets) =
        [ flagRecord "EPS encryption algorithms" epsCipheringNames ciphering,
          flagRecord "EPS integrity algorithms" epsIntegrityNames integrity ] ++
        (octets.head?.map (flagRecord "UMTS encryption algorithms" umtsCipheringNames)).toList ++
        (octets.tail.head?.map
          (flagRecord "UMTS integrity algorithms" umtsIntegrityNames)).toList ++
        (octets.tail.tail.head?.map (flagRecord "Features" terminalFeatureNames)).toList ++
        (octets.tail.tail.tail.head?.map
          (flagRecord "CIoT features" thingFeatureNames)).toList ++
        furtherFields "Further capabilities" octets.tail.tail.tail.tail := by
    rcases octets with _ | ⟨_, _ | ⟨_, _ | ⟨_, _ | ⟨_, _⟩⟩⟩⟩ <;> rfl
  rw [parts_eq]
  apply Exhausts.decoder_reads
  apply (readEpsAlgorithms_parses ciphering integrity).bind_exhausts
  apply readRecord_bind_exhausts
  apply readRecord_bind_exhausts
  apply readRecord_bind_exhausts
  apply readRecord_bind_exhausts
  exact (readFurther_exhausts _ _).returning _

/-- A capability carries no message. -/
theorem capabilityParts_plain
    (octets : List UInt8) :
    FieldsPlain (capabilityParts octets) := by
  rw [capabilityParts, fieldsPlain_append, fieldsPlain_iff]
  refine ⟨fun part member => ?_, ?_⟩
  · obtain ⟨index, found⟩ := List.mem_iff_getElem?.mp member
    obtain ⟨record, octet, -, -, rfl⟩ := List.getElem?_zipWith_eq_some.mp found
    exact flagRecord_isPlain record.1 record.2 octet
  · rw [furtherFields]
    split <;> simp

/-! ## Looking up the flags -/

theorem capabilityRecords_distinct :
    (capabilityRecords.map Prod.fst ++ ["Further capabilities"]).Nodup ∧
      ∀ record ∈ capabilityRecords, record.2.Nodup := by
  decide

theorem zipWith_names
    (records : List (String × List String))
    (octets : List UInt8) :
    (List.zipWith (fun record octet => flagRecord record.1 record.2 octet) records octets).map
        Field.name =
      (records.take octets.length).map Prod.fst := by
  induction records generalizing octets with
  | nil =>
      simp
  | cons record records inductionHypothesis =>
      cases octets with
      | nil =>
          rfl
      | cons octet octets =>
          exact congrArg (record.1 :: ·) (inductionHypothesis octets)

theorem furtherFields_names_sublist
    (name : String)
    (octets : List UInt8) :
    ((furtherFields name octets).map Field.name).Sublist [name] := by
  rw [furtherFields]
  split
  · exact List.nil_sublist _
  · exact List.Sublist.refl [name]

theorem capabilityParts_names_sublist
    (octets : List UInt8) :
    ((capabilityParts octets).map Field.name).Sublist
      ((capabilityRecords.take octets.length).map Prod.fst ++ ["Further capabilities"]) := by
  rw [capabilityParts, List.map_append, zipWith_names]
  exact (List.Sublist.refl _).append (furtherFields_names_sublist _ _)

theorem capabilityParts_distinct
    (octets : List UInt8) :
    ((capabilityParts octets).map Field.name).Nodup := by
  refine List.Nodup.sublist ?_ capabilityRecords_distinct.1
  refine (capabilityParts_names_sublist octets).trans ?_
  exact ((List.take_sublist _ _).map _).append (List.Sublist.refl _)

/-- Every flag is the bit of its octet, and a flag without an octet is missing. -/
theorem capability_flag
    {index place : Nat}
    {record : String × List String}
    {name : String}
    (octets : List UInt8)
    (record_eq : capabilityRecords[index]? = some record)
    (name_eq : record.2[place]? = some name) :
    ((Value.fields (capabilityParts octets)).field? record.1).bind (·.field? name) =
      octets[index]?.map fun octet => .flag (bit octet (8 - place)) := by
  obtain ⟨distinct, flagsDistinct⟩ := capabilityRecords_distinct
  cases octet_eq : octets[index]? with
  | some octet =>
      have member : flagRecord record.1 record.2 octet ∈ capabilityParts octets := by
        apply List.mem_append_left
        apply List.mem_of_getElem?
        exact List.getElem?_zipWith_eq_some.mpr ⟨record, octet, record_eq, octet_eq, rfl⟩
      have found := Value.field?_eq_some member (capabilityParts_distinct octets)
      have isRecord := List.mem_of_getElem? record_eq
      rw [flagRecord] at found
      rw [found, Option.bind_some, Value.field?_flagFields octet name_eq
        (flagsDistinct record isRecord), Option.map_some]
  | none =>
      have behind : record ∈ capabilityRecords.drop octets.length := by
        have past := List.getElem?_eq_none_iff.mp octet_eq
        apply List.mem_of_getElem?
        rw [List.getElem?_drop, Nat.add_sub_cancel' past]
        exact record_eq
      rw [← List.take_append_drop octets.length capabilityRecords, List.map_append,
        List.append_assoc, List.nodup_append] at distinct
      obtain ⟨-, others, apart⟩ := distinct
      have isBehind : record.1 ∈ (capabilityRecords.drop octets.length).map Prod.fst :=
        List.mem_map_of_mem behind
      have absent : record.1 ∉ (capabilityParts octets).map Field.name := by
        intro member
        have found := (capabilityParts_names_sublist octets).subset member
        rcases List.mem_append.mp found with taken | isFurther
        · exact apart _ taken _ (List.mem_append_left _ isBehind) rfl
        · exact (List.nodup_append.mp others).2.2 _ isBehind _ isFurther rfl
      rw [Value.field?_eq_none absent]
      rfl

/-- Octets beyond the records are kept, if there are any. -/
theorem capability_further
    (octets : List UInt8) :
    (Value.fields (capabilityParts octets)).field? "Further capabilities" =
      if octets.length ≤ 6 then none else some (.octets (octets.drop 6)) := by
  split
  · rename_i most
    apply Value.field?_eq_none
    rw [capabilityParts, List.drop_eq_nil_of_le most, List.map_append, zipWith_names]
    intro member
    rw [furtherFields, List.isEmpty_nil, if_pos rfl, List.map_nil, List.append_nil] at member
    have isRecord := ((List.take_sublist _ capabilityRecords).map Prod.fst).subset member
    exact (List.nodup_append.mp capabilityRecords_distinct.1).2.2 _ isRecord _
      (List.mem_singleton_self _) rfl
  · rename_i more
    have notEmpty : (octets.drop 6).isEmpty = false := by
      rw [List.isEmpty_eq_false_iff, ne_eq, List.drop_eq_nil_iff]
      exact more
    have member :
        octetsField "Further capabilities" (octets.drop 6) ∈ capabilityParts octets := by
      apply List.mem_append_right
      rw [furtherFields, notEmpty]
      exact List.mem_singleton_self _
    exact Value.field?_eq_some member (capabilityParts_distinct octets)

end ElementValue

end LteNas
