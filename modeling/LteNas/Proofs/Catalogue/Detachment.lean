import LteNas.Proofs.Catalogue.Grammar
import LteNas.Proofs.Element.Parsing

namespace LteNas

/-!
# Requests to detach without a direction

Terminal and network each have a catalogue for a request to detach.  Where the
direction is not known, a length decides between them: it is that of an uplink
request, or the catalogue is that of a downlink one.  The test separates the two
grammars, since a tag that is read as a length asks for far more than the cause
behind it.
-/

/-! ## Decoders that consult nothing -/

/-- The decoder looks at nothing but the octets. -/
def Decoder.ConsultsNothing : Decoder → Prop
  | .nibble _ => True
  | .octets decode => ∃ reader, decode = Reader.reporting reader

namespace Decoder

@[simp] theorem nibble_consultsNothing
    (decode : NibbleDecoder) :
    (nibble decode).ConsultsNothing :=
  trivial

@[simp] theorem reporting_consultsNothing
    (reader : Reader (Value × List Diagnostic)) :
    (octets reader.reporting).ConsultsNothing :=
  ⟨reader, rfl⟩

@[simp] theorem decoder_consultsNothing
    (reader : Reader Value) :
    (octets reader.decoder).ConsultsNothing :=
  ⟨reader.silent, reader.decoder_eq_reporting⟩

theorem ConsultsNothing.decodeOctets_eq
    {decoder : Decoder}
    {near far : Scope}
    (consultsNothing : decoder.ConsultsNothing)
    (containerType_eq : far.containerType = near.containerType)
    (body : Window) :
    decoder.decodeOctets far body = decoder.decodeOctets near body := by
  cases decoder with
  | nibble decode =>
      simp only [decodeOctets, Reader.decoder, containerType_eq]
  | octets decode =>
      obtain ⟨reader, rfl⟩ := consultsNothing
      simp only [decodeOctets, Reader.reporting, containerType_eq]

end Decoder

/-- Where no decoder consults the scope, a walk comes to the same in every scope. -/
theorem Catalogue.walk_eq_of_consultsNothing
    {catalogue : Catalogue}
    {near far : Scope}
    (consultsNothing : ∀ entry ∈ catalogue, entry.decoder.ConsultsNothing)
    (containerType_eq : far.containerType = near.containerType)
    (window : Window) :
    Catalogue.walk far window catalogue = Catalogue.walk near window catalogue := by
  induction catalogue generalizing near far window with
  | nil =>
      rfl
  | cons entry entries inductionHypothesis =>
      obtain ⟨entryNothing, entriesNothing⟩ := List.forall_mem_cons.mp consultsNothing
      rw [Catalogue.walk, Catalogue.walk]
      cases entry.format.frame window with
      | absent =>
          exact inductionHypothesis entriesNothing containerType_eq window
      | missing | overrun =>
          rfl
      | half nibble after =>
          simp only [inductionHypothesis entriesNothing containerType_eq after]
      | body body after =>
          have behind (announced : Option UInt8) :
              Catalogue.walk { far with containerType := announced } after entries =
                Catalogue.walk { near with containerType := announced } after entries :=
            inductionHypothesis entriesNothing (by rfl) after
          simp only [entryNothing.decodeOctets_eq containerType_eq body, behind]

theorem uplinkDetachRequest_consultsNothing :
    ∀ entry ∈ Catalogue.uplinkDetachRequest, entry.decoder.ConsultsNothing := by
  simp [Catalogue.uplinkDetachRequest, ElementSpec.lowHalf, ElementSpec.highHalf,
    ElementSpec.sized, ElementValue.epsMobileIdentity]

theorem downlinkDetachRequest_consultsNothing :
    ∀ entry ∈ Catalogue.downlinkDetachRequest, entry.decoder.ConsultsNothing := by
  simp [Catalogue.downlinkDetachRequest, ElementSpec.lowHalf, ElementSpec.highHalf,
    ElementSpec.tagged, ElementValue.mobilityCause]

/-! ## The two grammars -/

section Grammars

variable {entry : ElementSpec} {octets : List UInt8} {members : List Member}

/-- A last entry of whole octets is left out, or it is a value behind its header. -/
theorem Catalogue.Spells.last
    (spells : Catalogue.Spells [entry] octets members)
    (whole : ¬ entry.format.IsHalf) :
    ¬ entry.format.IsMandatory ∧ octets = [] ∨
      ∃ value : List UInt8,
        entry.format.Admits value.length ∧
          octets = entry.format.header value.length ++ value := by
  have notLow := WireFormat.ne_lowHalf_of_not_isHalf whole
  rcases (Catalogue.spells_cons_iff notLow).mp spells with ⟨optional, absent⟩ | present
  · exact .inl ⟨optional, (Catalogue.spells_nil_iff.mp absent).1⟩
  · obtain ⟨encoding, content, behind, others, rfl, -, encodes, nothing⟩ := present
    obtain ⟨rfl, -⟩ := Catalogue.spells_nil_iff.mp nothing
    rw [List.append_nil]
    cases content with
    | half nibble =>
        obtain ⟨octet, -, tagged, -⟩ := encodes
        rw [tagged] at whole
        exact (whole trivial).elim
    | value value =>
        exact .inr ⟨value, encodes⟩

/-- An uplink request is an octet and an identity with its length in front. -/
theorem uplinkDetachRequest_octets
    (spells : Catalogue.uplinkDetachRequest.Spells octets members) :
    ∃ (first : UInt8) (identity : List UInt8),
      identity.length < 256 ∧ octets = first :: sizedOctets identity := by
  obtain ⟨first, behind, others, rfl, -, spells⟩ :=
    (Catalogue.spells_pair_iff rfl rfl).mp spells
  rcases spells.last id with ⟨optional, -⟩ | ⟨identity, admitted, rfl⟩
  · exact (optional rfl).elim
  · exact ⟨first, identity, admitted, rfl⟩

/-- A downlink request is an octet, and perhaps a cause with its tag in front. -/
theorem downlinkDetachRequest_octets
    (spells : Catalogue.downlinkDetachRequest.Spells octets members) :
    ∃ first : UInt8, octets = [first] ∨ ∃ cause : UInt8, octets = [first, 0x53, cause] := by
  obtain ⟨first, behind, others, rfl, -, spells⟩ :=
    (Catalogue.spells_pair_iff rfl rfl).mp spells
  refine ⟨first, ?_⟩
  rcases spells.last id with ⟨-, rfl⟩ | ⟨value, admitted, rfl⟩
  · exact .inl rfl
  · obtain ⟨cause, rfl⟩ := List.length_eq_one_iff.mp admitted
    exact .inr ⟨cause, rfl⟩

end Grammars

/-! ## What the length tells -/

section Lengths

variable {scope : Scope} {window : Window}

/-- What a catalogue accepts whole is spelled by it. -/
theorem Catalogue.IsShipped.spells_of_isClean
    {catalogue : Catalogue}
    (shipped : catalogue.IsShipped)
    (clean : (Catalogue.walk scope window catalogue).IsClean) :
    ∃ members, catalogue.Spells window.rest members := by
  obtain ⟨pieces, lastScope, cursor, visits, finished⟩ :=
    (Catalogue.isClean_iff shipped.regular scope window).mp clean
  exact visits.spells shipped.unambiguous finished

/-- The length of an identity accounts for all octets behind the first two. -/
theorem hasUplinkDetachLength_of_uplink
    (clean : (Catalogue.walk scope window .uplinkDetachRequest).IsClean) :
    window.hasUplinkDetachLength = true := by
  have shipped : Catalogue.uplinkDetachRequest.IsShipped :=
    .inl ⟨.detachRequest, List.mem_cons_self⟩
  obtain ⟨members, spells⟩ := shipped.spells_of_isClean clean
  obtain ⟨first, identity, short, shape⟩ := uplinkDetachRequest_octets spells
  have second : window.peekAt? 1 = some (UInt8.ofNat (identity.length % 256)) := by
    rw [Window.peekAt?, shape]
    rfl
  have length_eq : (UInt8.ofNat (identity.length % 256)).toNat = identity.length := by
    rw [Nat.mod_eq_of_lt short, UInt8.toNat_ofNat_of_lt' short]
  have remaining_eq : window.remaining = identity.length + 2 := by
    rw [Window.remaining, shape, List.length_cons, sizedOctets, List.length_append,
      bigEndianOctets_length]
    omega
  rw [Window.hasUplinkDetachLength, second, Option.any_some, length_eq, remaining_eq,
    beq_self_eq_true]

/-- There is no second octet, or it is a tag that is not followed by so many octets. -/
theorem hasUplinkDetachLength_of_downlink
    (clean : (Catalogue.walk scope window .downlinkDetachRequest).IsClean) :
    window.hasUplinkDetachLength = false := by
  have shipped : Catalogue.downlinkDetachRequest.IsShipped :=
    .inl ⟨.detachRequest, List.mem_cons_of_mem _ List.mem_cons_self⟩
  obtain ⟨members, spells⟩ := shipped.spells_of_isClean clean
  obtain ⟨first, shape | ⟨cause, shape⟩⟩ := downlinkDetachRequest_octets spells
  · rw [Window.hasUplinkDetachLength, Window.peekAt?, shape]
    rfl
  · rw [Window.hasUplinkDetachLength, Window.peekAt?, Window.remaining, shape]
    rfl

end Lengths

/--
Without a direction a request to detach that is clean under one of the catalogues
comes to the same as in the direction of that catalogue, and no request is clean
under both.  The messages that may be nested are any for each direction.
-/
theorem detachRequest_walk_unknown
    (scope : Scope)
    (nested : Direction → Carriage → Window → Option (Message × Window))
    (window : Window) :
    let headed (direction : Direction) : Scope :=
      { scope with direction, nested := nested direction }
    let walk (direction : Direction) : Walk :=
      MobilityMessage.detachRequest.body.walk (headed direction) window
    let uplink := Catalogue.walk (headed .uplink) window .uplinkDetachRequest
    let downlink := Catalogue.walk (headed .downlink) window .downlinkDetachRequest
    (uplink.IsClean → walk .unknown = walk .uplink) ∧
      (downlink.IsClean → walk .unknown = walk .downlink) ∧
      ¬ (uplink.IsClean ∧ downlink.IsClean) := by
  intro headed walk uplink downlink
  have unknown_eq :
      walk .unknown =
        Catalogue.walk (headed .unknown) window
          (if window.hasUplinkDetachLength then .uplinkDetachRequest
            else .downlinkDetachRequest) :=
    rfl
  refine ⟨fun clean => ?_, fun clean => ?_, fun ⟨uplinkClean, downlinkClean⟩ => ?_⟩
  · rw [unknown_eq, if_pos (hasUplinkDetachLength_of_uplink clean)]
    exact Catalogue.walk_eq_of_consultsNothing uplinkDetachRequest_consultsNothing rfl window
  · rw [unknown_eq, if_neg (Bool.eq_false_iff.mp (hasUplinkDetachLength_of_downlink clean))]
    exact Catalogue.walk_eq_of_consultsNothing downlinkDetachRequest_consultsNothing rfl window
  · have isLong := hasUplinkDetachLength_of_uplink uplinkClean
    rw [hasUplinkDetachLength_of_downlink downlinkClean] at isLong
    cases isLong

/--
An identity of no octets makes a clean uplink request, whose identity cannot be
read, and a cause makes a clean downlink request.
-/
theorem detachRequest_walk_unknown_short :
    let headed (direction : Direction) : Scope := { Scope.initial with direction }
    let walk (direction : Direction) (octets : List UInt8) : Walk :=
      MobilityMessage.detachRequest.body.walk (headed direction) (.ofOctets octets 2)
    (walk .uplink [0x71, 0x00]).IsClean ∧
      walk .unknown [0x71, 0x00] = walk .uplink [0x71, 0x00] ∧
      (walk .uplink [0x71, 0x00]).diagnostics = [⟨.outOfBounds "EPS mobile identity", ⟨4, 4⟩⟩] ∧
      (walk .downlink [0x01, 0x53, 0x07]).IsClean ∧
      walk .unknown [0x01, 0x53, 0x07] = walk .downlink [0x01, 0x53, 0x07] := by
  intro headed walk
  let nested : Direction → Carriage → Window → Option (Message × Window) := fun _ _ _ => none
  have uplinkClean : (walk .uplink [0x71, 0x00]).IsClean :=
    ⟨rfl, by decide⟩
  have downlinkClean : (walk .downlink [0x01, 0x53, 0x07]).IsClean :=
    ⟨rfl, by decide⟩
  exact
    ⟨uplinkClean,
      (detachRequest_walk_unknown .initial nested (.ofOctets [0x71, 0x00] 2)).1
        uplinkClean,
      rfl,
      downlinkClean,
      (detachRequest_walk_unknown .initial nested (.ofOctets [0x01, 0x53, 0x07] 2)).2.1
        downlinkClean⟩

end LteNas
