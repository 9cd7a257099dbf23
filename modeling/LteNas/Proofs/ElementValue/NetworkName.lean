import LteNas.ElementValue.NetworkName
import LteNas.Proofs.Element.Parsing
import LteNas.Proofs.Text.Septets
import LteNas.Proofs.Text.Utf16

namespace LteNas

/-!
# Reading names of networks

The name of a network is read back in both codings.  Seven octets hold seven
septets or eight; the bits that the header declares as spare tell them apart.
-/

namespace ElementValue

open Reader Text

/-- The number of a coding in the header of a name. -/
def NameCoding.number : NameCoding → Nat
  | .septets => 0
  | .units => 1

/-- The header of a name. -/
def nameHeader (extension initials : Bool) (spare : Fin 8) (coding : NameCoding) : UInt8 :=
  UInt8.ofNat (extension.toNat * 128 + coding.number * 16 + initials.toNat * 8 + spare)

/-- What is shown of a name; the flag tells whether the initials of the country go with it. -/
def nameValue (coding : NameCoding) (initials : Bool) (text : String) : Value :=
  .fields
    [ ⟨"Coding Scheme", coding.value⟩,
      ⟨"Add CI", .flag initials⟩,
      textField "Text String" text ]

theorem nameHeader_tells
    (coding : NameCoding) :
    ∀ (extension initials : Bool) (spare : Fin 8),
      let header := nameHeader extension initials spare coding
      NameCoding.ofCode? (header >>> 4 &&& 0x07) = some coding ∧
        bit header 4 = initials ∧ (header &&& 0x07).toNat = spare := by
  cases coding <;> decide +kernel

/-- A name is shown as the text that its coding makes of the octets behind the header. -/
theorem networkName_reads_coding
    (extension initials : Bool)
    (spare : Fin 8)
    (coding : NameCoding)
    (octets : List UInt8) :
    OctetDecoder.Reads networkName (nameHeader extension initials spare coding :: octets)
      (nameValue coding initials (coding.readText octets spare)) := by
  obtain ⟨coded, initials_eq, spare_eq⟩ := nameHeader_tells coding extension initials spare
  apply Exhausts.decoder_reads
  apply (octet_parses _).bind_exhausts
  apply (rest_exhausts octets).bind
  dsimp only
  rw [coded, spare_eq, flagField, initials_eq]
  exact (pure_parses _).exhausts

/--
A name is read back.  Septets are shown as the characters of the default alphabet, as
many as there are, in whatever octets they are packed, which can be done with all of
them; different septets are different texts.  A text in sixteen-bit units is shown as
it was, characters beyond the basic plane included.
-/
theorem networkName_reads
    (extension initials : Bool) :
    (∀ (values : List (Fin 128)) (octets : List UInt8),
        PacksSeptets octets values →
          OctetDecoder.Reads networkName
            (nameHeader extension initials (spareBits values.length) .septets :: octets)
            (nameValue .septets initials (septetText values))) ∧
      (∀ values, ∃ octets, PacksSeptets octets values) ∧
      Function.Injective septetText ∧
      ∀ (text : String) (spare : Fin 8),
        OctetDecoder.Reads networkName
          (nameHeader extension initials spare .units :: utf16Octets text)
          (nameValue .units initials text) := by
  refine ⟨fun values octets packs => ?_, fun values => ⟨_, packSeptets_packs values⟩,
    septetText_injective, fun text spare => ?_⟩
  · have text_eq :
        NameCoding.readText octets (spareBits values.length) .septets = septetText values := by
      rw [NameCoding.readText, packs.length_eq, septetCount_packedLength, packs.unpackSeptets_eq]
    have reads :=
      networkName_reads_coding extension initials (spareBits values.length) .septets octets
    rwa [text_eq] at reads
  · have reads := networkName_reads_coding extension initials spare .units (utf16Octets text)
    rwa [NameCoding.readText, readUtf16_utf16Octets] at reads

/--
The same seven octets are a name of eight characters, or of seven with the last seven
bits spare.
-/
theorem networkName_reads_seven_octets :
    let octets : List UInt8 := [0x4F, 0x78, 0x59, 0x1E, 0xA6, 0xBF, 0xE5]
    let values : List (Fin 128) := [0x4F, 0x70, 0x65, 0x72, 0x61, 0x74, 0x6F, 0x72]
    PacksSeptets octets values ∧
      PacksSeptets octets (values.take 7) ∧
      OctetDecoder.Reads networkName (0x80 :: octets) (nameValue .septets false "Operator") ∧
      OctetDecoder.Reads networkName (0x87 :: octets) (nameValue .septets false "Operato") ∧
      OctetDecoder.Reads networkName [0x90, 0x00, 0x41, 0xD8, 0x3D, 0xDE, 0x00]
        (nameValue .units false "A😀") := by
  intro octets values
  have eight : PacksSeptets octets values :=
    ⟨by decide, by decide +kernel⟩
  have seven : PacksSeptets octets (values.take 7) :=
    ⟨by decide, by decide +kernel⟩
  obtain ⟨septets, -, -, units⟩ := networkName_reads true false
  have eightHeader : nameHeader true false (spareBits values.length) .septets = 0x80 := by
    decide
  have sevenHeader : nameHeader true false (spareBits (values.take 7).length) .septets = 0x87 := by
    decide
  have unitHeader : nameHeader true false 0 .units = 0x90 := by
    decide
  have unitOctets : utf16Octets "A😀" = [0x00, 0x41, 0xD8, 0x3D, 0xDE, 0x00] := by
    decide +kernel
  have eightText : septetText values = "Operator" := by
    decide +kernel
  have sevenText : septetText (values.take 7) = "Operato" := by
    decide +kernel
  have eightReads := septets values octets eight
  have sevenReads := septets (values.take 7) octets seven
  have unitReads := units "A😀" 0
  rw [eightHeader, eightText] at eightReads
  rw [sevenHeader, sevenText] at sevenReads
  rw [unitHeader, unitOctets] at unitReads
  exact ⟨eight, seven, eightReads, sevenReads, unitReads⟩

end ElementValue

end LteNas
