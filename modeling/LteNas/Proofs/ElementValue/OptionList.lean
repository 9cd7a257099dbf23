import LteNas.Proofs.Element.Entering
import LteNas.Proofs.Element.Fronts
import LteNas.Proofs.ElementValue.Connecting

namespace LteNas

/-!
# Lists of options

The options of a protocol are accepted exactly if they fill the element, and there
is one way only to take its octets for options.  An element that ends inside an
option, wherever that is, is refused as a whole.
-/

namespace ConfigurationOption

/-- The length of the contents can be written. -/
def Fits (option : ConfigurationOption) : Prop :=
  option.contents.length < 256

/-- The octets of an option, part by part. -/
def parts (option : ConfigurationOption) : List (List UInt8) :=
  [ bigEndianOctets 2 option.identifier.toNat,
    bigEndianOctets 1 option.contents.length,
    option.contents ]

theorem parts_flatten
    (option : ConfigurationOption) :
    option.parts.flatten = option.octets := by
  simp [parts, octets, sizedOctets]

theorem value_injective :
    Function.Injective value := by
  rintro ⟨identifier, contents⟩ ⟨otherIdentifier, otherContents⟩ same
  simp only [value, octetsField, Value.fields.injEq, List.cons.injEq, Field.mk.injEq,
    Value.coded.injEq, Value.octets.injEq, UInt16.toNat_inj] at same
  obtain ⟨⟨-, rfl, -⟩, ⟨-, rfl⟩, -⟩ := same
  rfl

/-- Octets that are no option are a front of one. -/
theorem isFramed :
    IsFramed Fits octets := by
  intro front none
  by_cases few : front.length < 2
  · obtain ⟨identifier, written⟩ :=
      exists_word (front ++ List.replicate (2 - front.length) 0) (by simp; omega)
    refine ⟨⟨identifier, []⟩, Nat.succ_pos 255, ?_, ?_⟩
    · rw [octets, written, List.append_assoc]
      exact List.prefix_append _ _
    · intro same
      have length_eq := congrArg List.length same
      simp [octets] at length_eq
      omega
  · have enough : 2 ≤ front.length := by
      omega
    obtain ⟨identifier, written⟩ :=
      exists_word (front.take 2) (List.length_take_of_le enough)
    have noContents :
        BeginsWithNone (fun value => value.length < 256) sizedOctets (front.drop 2) := by
      intro contents fits isFront
      have whole := (List.prefix_append_right_inj (front.take 2)).mpr isFront
      rw [List.take_append_drop, ← written] at whole
      exact none ⟨identifier, contents⟩ fits whole
    obtain ⟨contents, fits, isFront⟩ := sizedOctets_isFramed _ noContents
    refine ⟨⟨identifier, contents⟩, fits, ?_⟩
    have behind := isFront.append (front.take 2)
    rwa [List.take_append_drop, ← written] at behind

end ConfigurationOption

namespace ElementValue

open Reader

theorem readOption_readsParts
    {option : ConfigurationOption}
    (fits : option.Fits) :
    readOption.ReadsParts option.parts option.value := by
  apply (number_readsParts option.identifier.toNat_lt).bind
  apply (number_readsParts fits).bind
  exact (octets_readsParts rfl).returning _

/-- What is shown of options behind the octet in front of them. -/
def optionListValue (header : UInt8) (options : List ConfigurationOption) : Value :=
  .fields
    [ flagField "Extension" header 8,
      ⟨"Configuration Protocol", codedBy [(0, "PPP")] "Reserved" (header &&& 0x07)⟩,
      ⟨"Containers", .list (options.map ConfigurationOption.value)⟩ ]

/-- Octets that end inside an option are refused, for the part of it in which they do. -/
theorem configurationOptions_refuses
    {options : List ConfigurationOption}
    {last : ConfigurationOption}
    {tail octets : List UInt8}
    (header : UInt8)
    (cutOff : EndsInside ConfigurationOption.Fits ConfigurationOption.octets options last tail octets) :
    OctetDecoder.Refuses configurationOptions (header :: octets)
      (.tooShort (shortageWithin last.parts tail.length)) := by
  have front := cutOff.front
  rw [← last.parts_flatten] at front
  have fails :=
    every_fails (fun _ => readOption_parses) (fun option _ => option.octets_ne_nil) cutOff
      ((readOption_readsParts cutOff.lastIsGood).fails_of_front front)
  exact ((octet_parses header).bind_fails fails.bind).decoder_refuses

/-- The octets are those of options. -/
def AreOptions (options : List ConfigurationOption) (octets : List UInt8) : Prop :=
  IsTiledBy ConfigurationOption.Fits ConfigurationOption.octets options octets

/--
Options are accepted exactly if they fill the octets behind the header.  They are the
only ones that do, and are shown in order.  All other octets are refused without a
finding: they end inside an option, and the fault tells the part in which they do.
-/
theorem configurationOptions_accepts
    (header : UInt8)
    (octets : List UInt8) :
    (∀ (scope : Scope) (base : Nat),
        (∃ found,
            (configurationOptions scope (.ofOctets (header :: octets) base)).outcome = .ok found) ↔
          ∃ options, AreOptions options octets) ∧
      (∀ options, AreOptions options octets →
        OctetDecoder.Reads configurationOptions (header :: octets)
            (optionListValue header options) ∧
          ∀ others, AreOptions others octets → others = options) ∧
      ((∀ options, ¬ AreOptions options octets) →
        ∃ options last tail,
          EndsInside ConfigurationOption.Fits ConfigurationOption.octets options last tail octets ∧
            OctetDecoder.Refuses configurationOptions (header :: octets)
              (.tooShort (shortageWithin last.parts tail.length))) := by
  have framed :=
    ConfigurationOption.isFramed.isTiledBy_or_endsInside (fun option _ => option.octets_ne_nil) octets
  have reads {options : List ConfigurationOption} (tiled : AreOptions options octets) :
      OctetDecoder.Reads configurationOptions (header :: octets)
        (optionListValue header options) := by
    rw [tiled.octets_eq]
    exact configurationOptions_reads header tiled.areGood
  refine ⟨fun scope base => ⟨?_, ?_⟩, fun options tiled => ⟨reads tiled, fun others => ?_⟩, ?_⟩
  · intro accepted
    exact framed.resolve_right fun ⟨_, _, _, cutOff⟩ =>
      (configurationOptions_refuses header cutOff).not_ok scope base accepted
  · rintro ⟨options, tiled⟩
    exact (reads tiled).ok scope base
  · exact tiled.unique (fun _ => readOption_parses) (fun option _ => option.octets_ne_nil)
      ConfigurationOption.value_injective
  · intro none
    obtain ⟨options, last, tail, cutOff⟩ :=
      framed.resolve_left fun ⟨options, tiled⟩ => none options tiled
    exact ⟨options, last, tail, cutOff, configurationOptions_refuses header cutOff⟩

/-- Behind one whole option there is another without octets, or one that lacks four of its five. -/
theorem configurationOptions_accepts_two :
    let options : List ConfigurationOption := [⟨0x8021, [0x01, 0x00]⟩, ⟨0x000D, []⟩]
    let octets : List UInt8 := [0x80, 0x21, 0x02, 0x01, 0x00, 0x00, 0x0D, 0x00]
    let cut : List UInt8 := [0x80, 0x21, 0x02, 0x01, 0x00, 0x00, 0x0D, 0x05, 0x01]
    AreOptions options octets ∧
      OctetDecoder.Reads configurationOptions (0x80 :: octets) (optionListValue 0x80 options) ∧
      (∀ options, ¬ AreOptions options cut) ∧
      OctetDecoder.Refuses configurationOptions (0x80 :: cut) (.tooShort ⟨5, 1⟩) := by
  intro options octets cut
  have tiled : AreOptions options octets := by
    refine ⟨?_, by decide⟩
    simp [options, ConfigurationOption.Fits]
  obtain ⟨-, shown, -⟩ := configurationOptions_accepts 0x80 octets
  obtain ⟨accepts, -, refuses⟩ := configurationOptions_accepts 0x80 cut
  have failed :
      (configurationOptions .unlimited (.ofOctets (0x80 :: cut) 0)).outcome =
        .error (.tooShort ⟨5, 1⟩) := by
    rfl
  have none : ∀ options, ¬ AreOptions options cut := by
    intro options tiled
    obtain ⟨found, accepted⟩ := (accepts .unlimited 0).mpr ⟨options, tiled⟩
    rw [failed] at accepted
    cases accepted
  obtain ⟨whole, last, tail, -, refused⟩ := refuses none
  rw [refused.fault_eq failed] at refused
  exact ⟨tiled, (shown options tiled).1, none, refused⟩

end ElementValue

end LteNas
