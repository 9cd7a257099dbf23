import LteNas.Proofs.ElementValue.AreaBlock

namespace LteNas

/-!
# Lists of tracking areas

Every run of octets is a list of whole partial lists, each with the areas that
its header declares, and an ending that is one of four: nothing, a header of no
known coding, a partial list that is cut in what is fixed, or one that is cut in
its areas.  The decoder finds the whole partial lists, keeps what can be kept of
the ending, and reports the ending once.
-/

open ElementValue

/-- A partial list: its header and the block of areas behind it. -/
structure PartialAreaList (Network : Type) where
  header : UInt8
  block : AreaBlock Network

namespace PartialAreaList

variable {Network : Type}

def octets (write : Network → List UInt8) (list : PartialAreaList Network) : List UInt8 :=
  list.header :: list.block.octets write

/-- What is shown of a partial list: its coding, the declared number, and its areas. -/
def value (identify : Network → Plmn) (list : PartialAreaList Network) : Value :=
  partialListValue list.block.coding (declaredAreas list.header) (list.block.areas identify)

/-- The header tells the coding of the block. -/
def IsCoded (list : PartialAreaList Network) : Prop :=
  AreaCoding.ofCode? (areaCodingNumber list.header) = some list.block.coding

/-- The header tells the coding of the block, and declares the areas that it has. -/
structure IsWhole (list : PartialAreaList Network) : Prop where
  isCoded : list.IsCoded
  count_eq : list.block.count = declaredAreas list.header

theorem octets_ne_nil
    (write : Network → List UInt8)
    (list : PartialAreaList Network) :
    list.octets write ≠ [] :=
  List.cons_ne_nil _ _

end PartialAreaList

/-! ## Reading whole partial lists -/

namespace ElementValue

section Whole

variable {Network : Type} {write : Network → List UInt8} {identify : Network → Plmn}
  {list : PartialAreaList Network} {window : Window} {behind : List UInt8}

/-- The areas behind a header are read up to where they end. -/
theorem readAreas_behind_header
    (parses : ∀ network ∈ list.block.networks,
      readPlmn.Parses (write network) (identify network))
    (ended : RecordsEnd (declaredAreas list.header) list.block.coding.areaWidth
      list.block.count behind)
    (shape : window.rest = list.octets write ++ behind) :
    list.block.coding.readAreas (declaredAreas list.header) (window.advance 1) =
      .ok (list.block.areas identify, window.advance (list.octets write).length) := by
  have body_rest : (window.advance 1).rest = list.block.octets write ++ behind := by
    rw [Window.advance_rest, shape]
    rfl
  rw [readAreas_eq parses ended body_rest, Window.advance_advance, PartialAreaList.octets,
    List.length_cons, Nat.add_comm]

/-- A whole partial list is shown, and reading goes on behind it. -/
theorem readAreaLists_whole
    (parses : ∀ network ∈ list.block.networks,
      readPlmn.Parses (write network) (identify network))
    (whole : list.IsWhole)
    (shape : window.rest = list.octets write ++ behind)
    (limit : Nat) :
    readAreaLists (limit + 1) window =
      let others := readAreaLists limit (window.advance (list.octets write).length)
      { others with items := list.value identify :: others.items } := by
  have front : window.octet = .ok (list.header, window.advance 1) :=
    Window.octet_of_cons shape
  have read := readAreas_behind_header parses (.inl whole.count_eq) shape
  have all : ¬ (list.block.areas identify).length < declaredAreas list.header := by
    rw [AreaBlock.areas_length, whole.count_eq]
    exact Nat.lt_irrefl _
  have coded : AreaCoding.ofCode? (areaCodingNumber list.header) = some list.block.coding :=
    whole.isCoded
  simp only [readAreaLists, front, coded, read, if_neg all]
  rfl

/-- Whole partial lists are shown in order, and reading goes on behind them. -/
theorem readAreaLists_append
    {lists : List (PartialAreaList Network)}
    {limit : Nat}
    (parses : ∀ list ∈ lists, ∀ network ∈ list.block.networks,
      readPlmn.Parses (write network) (identify network))
    (whole : ∀ list ∈ lists, list.IsWhole)
    (shape : window.rest = lists.flatMap (PartialAreaList.octets write) ++ behind)
    (enough : window.remaining ≤ limit) :
    ∃ left, behind.length ≤ left ∧
      readAreaLists limit window =
        let after := window.advance (lists.flatMap (PartialAreaList.octets write)).length
        let others := readAreaLists left after
        { others with items := lists.map (PartialAreaList.value identify) ++ others.items } := by
  induction lists generalizing window limit with
  | nil =>
      rw [Window.remaining, shape] at enough
      exact ⟨limit, enough, by simp⟩
  | cons list lists inductionHypothesis =>
      rw [List.forall_mem_cons] at parses whole
      rw [List.flatMap_cons, List.append_assoc] at shape
      have after_rest :
          (window.advance (list.octets write).length).rest =
            lists.flatMap (PartialAreaList.octets write) ++ behind :=
        Window.rest_behind shape
      -- every partial list takes an octet, so the limit is not reached in front of the last octet
      have remaining_eq :
          window.remaining =
            (list.octets write).length +
              (window.advance (list.octets write).length).remaining := by
        rw [Window.remaining, Window.remaining, after_rest, shape, List.length_append]
      have takesOctets := List.length_pos_iff.mpr (list.octets_ne_nil write)
      obtain ⟨limit, rfl⟩ : ∃ more, limit = more + 1 :=
        Nat.exists_eq_add_one_of_ne_zero (by omega)
      have enoughBehind : (window.advance (list.octets write).length).remaining ≤ limit := by
        omega
      obtain ⟨left, enoughLeft, read⟩ :=
        inductionHypothesis parses.2 whole.2 after_rest enoughBehind
      refine ⟨left, enoughLeft, ?_⟩
      rw [readAreaLists_whole parses.1 whole.1 shape, read, Window.advance_advance,
        List.flatMap_cons, List.length_append]
      rfl

end Whole

end ElementValue

/-! ## Endings -/

/-- How octets end behind whole partial lists. -/
inductive AreaListEnding where
  /-- There is nothing left. -/
  | complete
  /-- A header does not tell a known coding. -/
  | reserved (header : UInt8) (others : List UInt8)
  /-- A partial list is cut in the octets that are fixed. -/
  | cut (header : UInt8) (others : List UInt8)
  /-- A partial list has fewer areas than declared, and not enough octets for another one. -/
  | short (list : PartialAreaList NetworkOctets) (surplus : List UInt8)

namespace AreaListEnding

def octets : AreaListEnding → List UInt8
  | .complete => []
  | .reserved header others => header :: others
  | .cut header others => header :: others
  | .short list surplus => list.octets NetworkOctets.toList ++ surplus

def Fits : AreaListEnding → Prop
  | .complete =>
      True
  | .reserved header _ =>
      AreaCoding.ofCode? (areaCodingNumber header) = none
  | .cut header others =>
      ∃ coding,
        AreaCoding.ofCode? (areaCodingNumber header) = some coding ∧
          others.length < coding.fixedWidth
  | .short list surplus =>
      list.IsCoded ∧
        list.block.count < declaredAreas list.header ∧
        surplus.length < list.block.coding.areaWidth

/-- What is shown of an ending. -/
def items : AreaListEnding → List Value
  | .complete => []
  | .reserved _ others => [.octets others]
  | .cut _ _ => []
  | .short list _ => [list.value NetworkOctets.plmn]

/-- What is wrong with an ending. -/
def finding? : AreaListEnding → Option DiagnosticKind
  | .complete =>
      none
  | .reserved header _ =>
      some (.unknownTypeOfList (areaCodingNumber header))
  | .cut _ _ =>
      some (.outOfBounds "Partial tracking area identity list")
  | .short list _ =>
      some (.wrongNumberOfElements (declaredAreas list.header)
        (list.block.areas NetworkOctets.plmn).length)

/-- A finding covers the ending. -/
def diagnostics (ending : AreaListEnding) (span : Span) : List Diagnostic :=
  ending.finding?.toList.map fun kind => ⟨kind, span⟩

end AreaListEnding

namespace ElementValue

/-- An ending is shown as far as it can be, and reported once. -/
theorem readAreaLists_ending
    {ending : AreaListEnding}
    {window : Window}
    {limit : Nat}
    (fits : ending.Fits)
    (shape : window.rest = ending.octets)
    (enough : ending.octets.length ≤ limit) :
    readAreaLists limit window = ⟨ending.items, ending.diagnostics window.remainingSpan⟩ := by
  cases limit with
  | zero =>
      have empty : ending.octets = [] :=
        List.length_eq_zero_iff.mp (Nat.le_zero.mp enough)
      cases ending with
      | complete =>
          rfl
      | reserved | cut | short =>
          exact (List.cons_ne_nil _ _ empty).elim
  | succ limit =>
      cases ending with
      | complete =>
          simp only [readAreaLists, Window.octet_of_nil shape]
          rfl
      | reserved header others =>
          have body_rest : (window.advance 1).rest = others := by
            rw [Window.advance_rest, shape]
            rfl
          have reserved : AreaCoding.ofCode? (areaCodingNumber header) = none :=
            fits
          simp only [readAreaLists, Window.octet_of_cons shape, reserved, body_rest]
          rfl
      | cut header others =>
          obtain ⟨coding, coded, few⟩ := fits
          have few : (window.advance 1).remaining < coding.fixedWidth := by
            rwa [Window.remaining, Window.advance_rest, shape]
          obtain ⟨fault, failed⟩ := readAreas_fails few (declaredAreas header)
          simp only [readAreaLists, Window.octet_of_cons shape, coded, failed]
          rfl
      | short list surplus =>
          obtain ⟨coded, few, cutOff⟩ := fits
          have front : window.octet = .ok (list.header, window.advance 1) :=
            Window.octet_of_cons shape
          have read :=
            readAreas_behind_header (fun network _ => networkOctets_parses network)
              (.inr ⟨few, cutOff⟩) shape
          have coded : AreaCoding.ofCode? (areaCodingNumber list.header) = some list.block.coding :=
            coded
          have fewer :
              (list.block.areas NetworkOctets.plmn).length < declaredAreas list.header := by
            rwa [AreaBlock.areas_length]
          simp only [readAreaLists, front, coded, read, if_pos fewer]
          rfl

/-- Whole partial lists are shown in order, and the ending behind them as far as it can be. -/
theorem readTrackingAreaList_eq
    {Network : Type}
    {write : Network → List UInt8}
    {identify : Network → Plmn}
    {lists : List (PartialAreaList Network)}
    {ending : AreaListEnding}
    {window : Window}
    (parses : ∀ list ∈ lists, ∀ network ∈ list.block.networks,
      readPlmn.Parses (write network) (identify network))
    (whole : ∀ list ∈ lists, list.IsWhole)
    (fits : ending.Fits)
    (shape : window.rest = lists.flatMap (PartialAreaList.octets write) ++ ending.octets) :
    readTrackingAreaList window =
      .ok
        ((.list (lists.map (PartialAreaList.value identify) ++ ending.items),
            ending.diagnostics
              ⟨window.position + (lists.flatMap (PartialAreaList.octets write)).length,
                window.stop⟩),
          window.exhaust) := by
  obtain ⟨left, enough, read⟩ := readAreaLists_append parses whole shape (Nat.le_refl _)
  generalize lists.flatMap (PartialAreaList.octets write) = front at shape read ⊢
  have after_rest : (window.advance front.length).rest = ending.octets :=
    Window.rest_behind shape
  have within : front.length ≤ window.remaining := by
    rw [Window.remaining_of_append shape]
    exact Nat.le_add_right _ _
  have span_eq :
      (window.advance front.length).remainingSpan =
        ⟨window.position + front.length, window.stop⟩ := by
    rw [Window.remainingSpan, Window.advance_position, Window.advance_stop within]
  simp only [readTrackingAreaList, read, readAreaLists_ending fits after_rest enough, span_eq]

end ElementValue

/-! ## Encoding partial lists -/

/-- The number of the coding in a header. -/
def ElementValue.AreaCoding.number : AreaCoding → Nat
  | .oneNetwork => 0
  | .consecutive => 1
  | .severalNetworks => 2

namespace AreaBlock

/-- The header in front of a block: its coding, and one less than the number of its areas. -/
def header {Network : Type} (block : AreaBlock Network) : UInt8 :=
  UInt8.ofNat (block.coding.number * 32 + (block.count - 1))

/-- The block behind its header. -/
def headed {Network : Type} (block : AreaBlock Network) : PartialAreaList Network :=
  ⟨block.header, block⟩

/-- There are areas, which a header can count, and the codes of their networks are decimal. -/
structure Fits (block : AreaBlock Plmn) : Prop where
  count_pos : 1 ≤ block.count
  count_le : block.count ≤ 32
  networks : ∀ plmn ∈ block.networks, plmn.FitsDigits

theorem header_declares
    (coding : AreaCoding) :
    ∀ others < 32,
      let header := UInt8.ofNat (coding.number * 32 + others)
      AreaCoding.ofCode? (areaCodingNumber header) = some coding ∧
        declaredAreas header = others + 1 := by
  cases coding <;> decide

theorem Fits.headed_isWhole
    {block : AreaBlock Plmn}
    (fits : block.Fits) :
    block.headed.IsWhole := by
  have count_pos := fits.count_pos
  have count_le := fits.count_le
  obtain ⟨coded, declared⟩ := header_declares block.coding (block.count - 1) (by omega)
  refine ⟨coded, ?_⟩
  show block.count = declaredAreas block.header
  rw [header, declared]
  omega

end AreaBlock

namespace ElementValue

/-- A list of partial lists is read back, each with its coding, its number and its areas. -/
theorem trackingAreaList_reads
    {blocks : List (AreaBlock Plmn)}
    (fit : ∀ block ∈ blocks, block.Fits) :
    OctetDecoder.Reads trackingAreaList
      (blocks.flatMap fun block => block.headed.octets Plmn.toOctets)
      (.list
        (blocks.map fun block =>
          partialListValue block.coding block.count (block.areas id))) := by
  apply Reader.Exhausts.reporting_reads
  intro window shape
  have parses :
      ∀ list ∈ blocks.map AreaBlock.headed, ∀ plmn ∈ list.block.networks,
        readPlmn.Parses plmn.toOctets (id plmn) := by
    rw [List.forall_mem_map]
    intro block member plmn among
    exact readPlmn_parses ((fit block member).networks plmn among)
  have whole : ∀ list ∈ blocks.map AreaBlock.headed, list.IsWhole := by
    rw [List.forall_mem_map]
    exact fun block member => (fit block member).headed_isWhole
  have values :
      (blocks.map AreaBlock.headed).map (PartialAreaList.value id) =
        blocks.map fun block => partialListValue block.coding block.count (block.areas id) := by
    rw [List.map_map]
    refine List.map_congr_left fun block member => ?_
    have declared := (fit block member).headed_isWhole.count_eq
    show partialListValue block.coding (declaredAreas block.headed.header) _ = _
    rw [← declared]
    rfl
  have shape :
      window.rest =
        (blocks.map AreaBlock.headed).flatMap (PartialAreaList.octets Plmn.toOctets) ++ [] := by
    rw [shape, List.flatMap_map, List.append_nil]
  have fits : AreaListEnding.Fits .complete :=
    trivial
  rw [readTrackingAreaList_eq parses whole fits shape, values, AreaListEnding.items,
    List.append_nil]
  rfl

/-- Three partial lists, one of each coding; the codes of the second one pass the highest. -/
theorem trackingAreaList_reads_mixed :
    let home : Plmn := ⟨208, 93, false⟩
    let other : Plmn := ⟨310, 410, true⟩
    let blocks : List (AreaBlock Plmn) :=
      [ .oneNetwork home [1, 2],
        .consecutive other 0xFFFE 3,
        .severalNetworks [(home, 7), (other, 8)] ]
    let octets : List UInt8 :=
      [ 0x01, 0x02, 0xF8, 0x39, 0x00, 0x01, 0x00, 0x02,
        0x22, 0x13, 0x00, 0x14, 0xFF, 0xFE,
        0x41, 0x02, 0xF8, 0x39, 0x00, 0x07, 0x13, 0x00, 0x14, 0x00, 0x08 ]
    (∀ block ∈ blocks, block.Fits) ∧
      OctetDecoder.Reads trackingAreaList octets
        (.list
          [ partialListValue .oneNetwork 2 [⟨home, 1⟩, ⟨home, 2⟩],
            partialListValue .consecutive 3 [⟨other, 0xFFFE⟩, ⟨other, 0xFFFF⟩, ⟨other, 0⟩],
            partialListValue .severalNetworks 2 [⟨home, 7⟩, ⟨other, 8⟩] ]) := by
  intro home other blocks octets
  have homeFits : home.FitsDigits :=
    ⟨by decide, by decide⟩
  have otherFits : other.FitsDigits :=
    ⟨by decide, by decide⟩
  have fit : ∀ block ∈ blocks, block.Fits := by
    simp only [blocks, List.forall_mem_cons, List.not_mem_nil, false_implies, implies_true,
      and_true]
    refine ⟨⟨by decide, by decide, ?_⟩, ⟨by decide, by decide, ?_⟩, ⟨by decide, by decide, ?_⟩⟩
    · simpa [AreaBlock.networks] using homeFits
    · simpa [AreaBlock.networks] using otherFits
    · simpa [AreaBlock.networks] using ⟨homeFits, otherFits⟩
  have octets_eq :
      (blocks.flatMap fun block => block.headed.octets Plmn.toOctets) = octets := by
    decide
  have reads := trackingAreaList_reads fit
  rw [octets_eq] at reads
  exact ⟨fit, reads⟩

/-! ## Every run of octets -/

/-- Octets are whole partial lists and an ending. -/
theorem exists_areaLists
    (octets : List UInt8) :
    ∃ (lists : List (PartialAreaList NetworkOctets)) (ending : AreaListEnding),
      octets = lists.flatMap (PartialAreaList.octets NetworkOctets.toList) ++ ending.octets ∧
        (∀ list ∈ lists, list.IsWhole) ∧
        ending.Fits := by
  -- the induction is on the octets that are left behind a whole partial list
  induction count_eq : octets.length using Nat.strongRecOn generalizing octets with
  | ind count inductionHypothesis =>
      cases octets with
      | nil =>
          exact ⟨[], .complete, rfl, by simp, trivial⟩
      | cons header others =>
          cases coded : AreaCoding.ofCode? (areaCodingNumber header) with
          | none =>
              exact ⟨[], .reserved header others, rfl, by simp, coded⟩
          | some coding =>
              by_cases few : others.length < coding.fixedWidth
              · exact ⟨[], .cut header others, rfl, by simp, coding, coded, few⟩
              · obtain ⟨block, behind, rfl, shape, ended⟩ :=
                  exists_block (Nat.le_of_not_lt few) (declaredAreas header)
                let list : PartialAreaList NetworkOctets := ⟨header, block⟩
                have list_shape :
                    header :: others = list.octets NetworkOctets.toList ++ behind := by
                  rw [shape]
                  rfl
                rcases ended with whole | ⟨fewer, cutOff⟩
                · have shorter : behind.length < count := by
                    rw [← count_eq, list_shape, List.length_append]
                    have takesOctets :=
                      List.length_pos_iff.mpr (list.octets_ne_nil NetworkOctets.toList)
                    omega
                  obtain ⟨lists, ending, behind_shape, wholeLists, fits⟩ :=
                    inductionHypothesis _ shorter behind rfl
                  refine ⟨list :: lists, ending, ?_, ?_, fits⟩
                  · rw [list_shape, behind_shape, List.flatMap_cons, List.append_assoc]
                  · exact List.forall_mem_cons.mpr ⟨⟨coded, whole⟩, wholeLists⟩
                · exact ⟨[], .short list behind, list_shape, by simp, coded, fewer, cutOff⟩

/--
Any octets are whole partial lists, each with the areas that its header declares,
and an ending.  The list is read to its last octet, and shows all of them and what
can be kept of the ending; at most one finding is reported, and it covers the ending.
-/
theorem trackingAreaList_reads_any
    (scope : Scope)
    (octets : List UInt8)
    (base : Nat) :
    ∃ (lists : List (PartialAreaList NetworkOctets)) (ending : AreaListEnding),
      octets = lists.flatMap (PartialAreaList.octets NetworkOctets.toList) ++ ending.octets ∧
        (∀ list ∈ lists, list.IsWhole) ∧
        ending.Fits ∧
        trackingAreaList scope (.ofOctets octets base) =
          ⟨.ok
            (.list (lists.map (PartialAreaList.value NetworkOctets.plmn) ++ ending.items),
              (Window.ofOctets octets base).exhaust),
            ending.diagnostics
              ⟨base + (lists.flatMap (PartialAreaList.octets NetworkOctets.toList)).length,
                base + octets.length⟩,
            scope.containerType⟩ := by
  obtain ⟨lists, ending, shape, whole, fits⟩ := exists_areaLists octets
  refine ⟨lists, ending, shape, whole, fits, ?_⟩
  rw [trackingAreaList, Reader.reporting,
    readTrackingAreaList_eq (fun _ _ network _ => networkOctets_parses network) whole fits shape]
  rfl

example (scope : Scope) :
    (trackingAreaList scope
        (.ofOctets [0x00, 0x02, 0xF8, 0x39, 0x00, 0x01, 0x21, 0x02] 0)).diagnostics =
      [⟨.outOfBounds "Partial tracking area identity list", ⟨6, 8⟩⟩] := by
  rfl

end ElementValue

end LteNas
