import LteNas.ElementValue.Area
import LteNas.Proofs.Element.Width
import LteNas.Proofs.Identity.Plmn

namespace LteNas

/-!
# The areas of a partial list

Behind its header a partial list holds a block of tracking areas in one of three
codings.  What a block looks like does not depend on how its networks are
written, so a block is given over networks of any kind: network identities, or
three octets that are read as one.  A block is read up to the last area that is
declared, or that there are octets for.
-/

/-- Three octets that are read as a network identity, whatever digits they hold. -/
structure NetworkOctets where
  first : UInt8
  second : UInt8
  third : UInt8

namespace NetworkOctets

def toList (network : NetworkOctets) : List UInt8 :=
  [network.first, network.second, network.third]

def plmn (network : NetworkOctets) : Plmn :=
  .ofOctets network.first network.second network.third

end NetworkOctets

/-- The two octets of the code of an area. -/
def areaCodeOctets (code : UInt16) : List UInt8 :=
  bigEndianOctets 2 code.toNat

theorem areaCodeOctets_ne_nil
    (code : UInt16) :
    areaCodeOctets code ≠ [] := by
  intro empty
  have length_eq := bigEndianOctets_length 2 code.toNat
  rw [areaCodeOctets] at empty
  rw [empty] at length_eq
  cases length_eq

/-- Any two octets are the code of an area. -/
theorem exists_areaCode
    (octets : List UInt8)
    (length_eq : octets.length = 2) :
    ∃ code, areaCodeOctets code = octets :=
  exists_word octets length_eq

/-- The areas of a partial list, as its coding writes them. -/
inductive AreaBlock (Network : Type) where
  /-- One network and any codes. -/
  | oneNetwork (network : Network) (codes : List UInt16)
  /-- One network, a first code, and as many codes in all. -/
  | consecutive (network : Network) (first : UInt16) (count : Nat)
  /-- Networks, each with a code. -/
  | severalNetworks (places : List (Network × UInt16))

namespace AreaBlock

open ElementValue

variable {Network : Type}

def coding : AreaBlock Network → AreaCoding
  | .oneNetwork _ _ => .oneNetwork
  | .consecutive _ _ _ => .consecutive
  | .severalNetworks _ => .severalNetworks

/-- The number of areas. -/
def count : AreaBlock Network → Nat
  | .oneNetwork _ codes => codes.length
  | .consecutive _ _ count => count
  | .severalNetworks places => places.length

def networks : AreaBlock Network → List Network
  | .oneNetwork network _ => [network]
  | .consecutive network _ _ => [network]
  | .severalNetworks places => places.map Prod.fst

/-- The octets of the block, its networks being written in some way. -/
def octets (write : Network → List UInt8) : AreaBlock Network → List UInt8
  | .oneNetwork network codes =>
      write network ++ codes.flatMap areaCodeOctets
  | .consecutive network first _ =>
      write network ++ areaCodeOctets first
  | .severalNetworks places =>
      places.flatMap fun (network, code) => write network ++ areaCodeOctets code

/-- The areas of the block; the code after the highest is zero. -/
def areas (identify : Network → Plmn) : AreaBlock Network → List TrackingArea
  | .oneNetwork network codes =>
      codes.map fun code => ⟨identify network, code⟩
  | .consecutive network first count =>
      (List.range count).map fun index => ⟨identify network, first + UInt16.ofNat index⟩
  | .severalNetworks places =>
      places.map fun (network, code) => ⟨identify network, code⟩

@[simp] theorem areas_length
    (identify : Network → Plmn)
    (block : AreaBlock Network) :
    (block.areas identify).length = block.count := by
  cases block <;> simp [areas, count]

end AreaBlock

namespace ElementValue

/-! ## What the areas of a coding take -/

/-- The octets of a partial list that are there however many areas it has. -/
def AreaCoding.fixedWidth : AreaCoding → Nat
  | .oneNetwork => 3
  | .consecutive => 5
  | .severalNetworks => 0

/-- The octets that every area takes. -/
def AreaCoding.areaWidth : AreaCoding → Nat
  | .oneNetwork => 2
  | .consecutive => 0
  | .severalNetworks => 5

theorem readPlmn_takes :
    readPlmn.Takes 3 :=
  ((Reader.octets_takes 3).returning _).returning _

theorem readTrackingArea_takes :
    readTrackingArea.Takes 5 :=
  readPlmn_takes.bind fun _ => (Reader.number_takes 2).returning _

theorem networkOctets_parses
    (network : NetworkOctets) :
    readPlmn.Parses network.toList network.plmn :=
  readPlmn_parses_octets network.first network.second network.third

theorem areaCode_parses
    (code : UInt16) :
    (Reader.number 2).Parses (areaCodeOctets code) code.toNat :=
  Reader.number_parses code.toNat_lt

theorem readTrackingArea_parses
    {octets : List UInt8}
    {plmn : Plmn}
    (parses : readPlmn.Parses octets plmn)
    (code : UInt16) :
    readTrackingArea.Parses (octets ++ areaCodeOctets code) ⟨plmn, code⟩ := by
  have named :
      Reader.Parses (do return TrackingArea.mk plmn (UInt16.ofNat (← Reader.number 2)))
        (areaCodeOctets code) ⟨plmn, UInt16.ofNat code.toNat⟩ :=
    (areaCode_parses code).returning _
  rw [UInt16.ofNat_toNat] at named
  exact parses.bind named

/-! ## Reading a block -/

/-- Without its fixed octets a block cannot be read. -/
theorem readAreas_fails
    {coding : AreaCoding}
    {window : Window}
    (few : window.remaining < coding.fixedWidth)
    (declared : Nat) :
    ∃ fault, coding.readAreas declared window = .error fault := by
  cases coding with
  | oneNetwork =>
      obtain ⟨fault, failed⟩ := readPlmn_takes.fails few
      exact ⟨fault, Reader.bind_eq_of_error failed⟩
  | consecutive =>
      have takes : Reader.Takes (AreaCoding.consecutive.readAreas declared) 5 :=
        readPlmn_takes.bind fun _ => (Reader.number_takes 2).returning _
      exact takes.fails few
  | severalNetworks =>
      cases few

variable {Network : Type} {write : Network → List UInt8} {identify : Network → Plmn}

/-- A block is read as its areas, of which there may be fewer than declared. -/
theorem readAreas_eq
    {block : AreaBlock Network}
    {declared : Nat}
    {window : Window}
    {behind : List UInt8}
    (parses : ∀ network ∈ block.networks, readPlmn.Parses (write network) (identify network))
    (ended : RecordsEnd declared block.coding.areaWidth block.count behind)
    (shape : window.rest = block.octets write ++ behind) :
    block.coding.readAreas declared window =
      .ok (block.areas identify, window.advance (block.octets write).length) := by
  cases block with
  | oneNetwork network codes =>
      have networkParses := parses network (List.mem_singleton_self network)
      rw [AreaBlock.octets, List.append_assoc] at shape
      have after_rest :
          (window.advance (write network).length).rest =
            codes.flatMap areaCodeOctets ++ behind :=
        Window.rest_behind shape
      have codesRead :=
        Reader.available_of_recordsEnd (Reader.number_takes 2)
          (fun code _ => areaCode_parses code) (fun code _ => areaCodeOctets_ne_nil code)
          ended after_rest
      have named :
          (codes.map UInt16.toNat).map
              (fun code => TrackingArea.mk (identify network) (.ofNat code)) =
            codes.map fun code => ⟨identify network, code⟩ := by
        simp
      rw [AreaBlock.coding, AreaCoding.readAreas,
        Reader.bind_eq_of_ok (networkParses window _ shape), Reader.bind_eq_of_ok codesRead,
        Window.advance_advance, AreaBlock.octets, List.length_append, AreaBlock.areas, ← named]
      rfl
  | consecutive network first count =>
      have networkParses := parses network (List.mem_singleton_self network)
      obtain rfl : count = declared := by
        rcases ended with same | ⟨-, none⟩
        · exact same
        · cases none
      have named :
          (fun index => TrackingArea.mk (identify network) (.ofNat (first.toNat + index))) =
            fun index => ⟨identify network, first + UInt16.ofNat index⟩ := by
        funext index
        rw [UInt16.ofNat_add, UInt16.ofNat_toNat]
      have blockParses :
          Reader.Parses (AreaCoding.consecutive.readAreas count)
            (write network ++ areaCodeOctets first)
            ((List.range count).map fun index =>
              ⟨identify network, first + UInt16.ofNat index⟩) := by
        rw [← named]
        exact networkParses.bind ((areaCode_parses first).returning _)
      exact blockParses window behind shape
  | severalNetworks places =>
      exact Reader.available_of_recordsEnd readTrackingArea_takes
        (fun place member =>
          readTrackingArea_parses (parses place.1 (List.mem_map_of_mem member)) place.2)
        (fun place _ => List.append_ne_nil_of_right_ne_nil _ (areaCodeOctets_ne_nil place.2))
        ended shape

/-! ## Octets as a block -/

theorem exists_network
    {octets : List UInt8}
    (enough : 3 ≤ octets.length) :
    ∃ (network : NetworkOctets) (behind : List UInt8), octets = network.toList ++ behind := by
  obtain ⟨first, second, third, behind, rfl⟩ :
      ∃ first second third behind, octets = first :: second :: third :: behind := by
    match octets, enough with
    | first :: second :: third :: behind, _ => exact ⟨first, second, third, behind, rfl⟩
  exact ⟨⟨first, second, third⟩, behind, rfl⟩

/-- Any five octets are a network and the code of an area. -/
theorem exists_place
    (octets : List UInt8)
    (length_eq : octets.length = 5) :
    ∃ place : NetworkOctets × UInt16, place.1.toList ++ areaCodeOctets place.2 = octets := by
  have enough : 3 ≤ octets.length := by
    omega
  obtain ⟨network, behind, rfl⟩ := exists_network enough
  have network_length : network.toList.length = 3 :=
    rfl
  have behind_length : behind.length = 2 := by
    rw [List.length_append] at length_eq
    omega
  obtain ⟨code, rfl⟩ := exists_areaCode behind behind_length
  exact ⟨(network, code), rfl⟩

/-- Octets that hold what is fixed start with a block, and end or go on behind it. -/
theorem exists_block
    {coding : AreaCoding}
    {octets : List UInt8}
    (enough : coding.fixedWidth ≤ octets.length)
    (declared : Nat) :
    ∃ (block : AreaBlock NetworkOctets) (behind : List UInt8),
      block.coding = coding ∧
        octets = block.octets NetworkOctets.toList ++ behind ∧
        RecordsEnd declared coding.areaWidth block.count behind := by
  cases coding with
  | oneNetwork =>
      obtain ⟨network, others, rfl⟩ := exists_network enough
      obtain ⟨codes, behind, rfl, ended⟩ := exists_records exists_areaCode declared others
      refine ⟨.oneNetwork network codes, behind, rfl, ?_, ended⟩
      rw [AreaBlock.octets, List.append_assoc]
  | consecutive =>
      obtain ⟨place, written⟩ :=
        exists_place (octets.take 5) (List.length_take_of_le enough)
      refine ⟨.consecutive place.1 place.2 declared, octets.drop 5, rfl, ?_, .inl rfl⟩
      rw [AreaBlock.octets, written, List.take_append_drop]
  | severalNetworks =>
      obtain ⟨places, behind, shape, ended⟩ := exists_records exists_place declared octets
      exact ⟨.severalNetworks places, behind, rfl, shape, ended⟩

end ElementValue

end LteNas
