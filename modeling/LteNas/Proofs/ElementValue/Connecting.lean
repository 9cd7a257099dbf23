import LteNas.ElementValue.Session
import LteNas.Proofs.Element.Parsing

namespace LteNas

/-!
# Reading what a connection is requested with

The labels of an access point name and the options of a protocol are read back
from their octets.
-/

/-- An option of a protocol: its identifier and its octets. -/
structure ConfigurationOption where
  identifier : UInt16
  contents : List UInt8

namespace ConfigurationOption

def octets (option : ConfigurationOption) : List UInt8 :=
  bigEndianOctets 2 option.identifier.toNat ++ sizedOctets option.contents

/-- What is shown of an option. -/
def value (option : ConfigurationOption) : Value :=
  .fields
    [ ⟨"Protocol or Container ID",
        .coded option.identifier.toNat (ElementValue.optionName option.identifier.toNat)⟩,
      octetsField "Contents" option.contents ]

theorem octets_ne_nil
    (option : ConfigurationOption) :
    option.octets ≠ [] :=
  List.cons_ne_nil _ _

end ConfigurationOption

namespace ElementValue

open Reader

/-! ## Access points -/

theorem readAccessPointLabel_parses
    {label : List UInt8}
    (fits : label.length < 256) :
    readAccessPointLabel.Parses (sizedOctets label) (Text.readUtf8 label) := by
  apply (number_parses fits).bind
  exact ((octets_parses label).blaming _).returning _

/-- Labels are read back, each as text. -/
theorem accessPointName_reads
    {labels : List (List UInt8)}
    (fit : ∀ label ∈ labels, label.length < 256) :
    OctetDecoder.Reads accessPointName (labels.flatMap sizedOctets)
      (.text (".".intercalate (labels.map Text.readUtf8))) := by
  have reads :=
    every_exhausts (fun label member => readAccessPointLabel_parses (fit label member))
      fun label _ => sizedOctets_ne_nil label
  exact (reads.returning _).decoder_reads

/-- The labels of a name that fits into an element fit as well. -/
theorem label_fits
    {labels : List (List UInt8)}
    (fits : (labels.flatMap sizedOctets).length < 256) :
    ∀ label ∈ labels, label.length < 256 := by
  intro label member
  have within := length_le_of_mem_flatMap sizedOctets member
  rw [sizedOctets, List.length_append] at within
  omega

/-! ## Options -/

theorem readOption_parses
    {option : ConfigurationOption}
    (fits : option.contents.length < 256) :
    readOption.Parses option.octets option.value := by
  apply (number_parses option.identifier.toNat_lt).bind
  apply (number_parses fits).bind
  exact (octets_parses option.contents).returning _

/-- Options are read back behind the octet in front of them. -/
theorem configurationOptions_reads
    {options : List ConfigurationOption}
    (header : UInt8)
    (fit : ∀ option ∈ options, option.contents.length < 256) :
    OctetDecoder.Reads configurationOptions
      (header :: options.flatMap ConfigurationOption.octets)
      (.fields
        [ flagField "Extension" header 8,
          ⟨"Configuration Protocol", codedBy [(0, "PPP")] "Reserved" (header &&& 0x07)⟩,
          ⟨"Containers", .list (options.map ConfigurationOption.value)⟩ ]) := by
  have reads :=
    every_exhausts (fun option member => readOption_parses (fit option member))
      fun option _ => option.octets_ne_nil
  apply Exhausts.decoder_reads
  apply (octet_parses header).bind_exhausts
  exact reads.returning _

/-- The contents of options that fit into an element fit as well. -/
theorem contents_fit
    {options : List ConfigurationOption}
    (fits : (options.flatMap ConfigurationOption.octets).length < 256) :
    ∀ option ∈ options, option.contents.length < 256 := by
  intro option member
  have within := length_le_of_mem_flatMap ConfigurationOption.octets member
  rw [ConfigurationOption.octets, sizedOctets, List.length_append, List.length_append] at within
  omega

end ElementValue

end LteNas
