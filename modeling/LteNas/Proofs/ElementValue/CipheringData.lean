import LteNas.ElementValue.Security
import LteNas.Proofs.Element.Cutting
import LteNas.Proofs.ElementValue.AreaList

namespace LteNas

/-!
# Keys of broadcast positioning data

A list of ciphering data sets is a count and the sets behind it, each with two
parts of its own length, one of which is a list of tracking areas.  The sets are
read back in order, whatever the count says, and a wrong count is reported.  A
set that is cut off costs only itself: the sets in front of it are kept, and the
finding about it runs to the end of the element and tells where it was cut.
-/

open ElementValue

/-- Two decimal digits of a time; their octet has the tens in its low half. -/
structure ClockDigits where
  tens : Fin 10
  units : Fin 10

namespace ClockDigits

def octet (digits : ClockDigits) : UInt8 :=
  joinNibbles (UInt8.ofNat digits.units) (UInt8.ofNat digits.tens)

def text (digits : ClockDigits) : String :=
  String.ofList [Nat.digitChar digits.tens, Nat.digitChar digits.units]

theorem clockText_joinNibbles :
    ∀ tens units : Fin 10,
      clockText (joinNibbles (UInt8.ofNat units) (UInt8.ofNat tens)) =
        String.ofList [Nat.digitChar tens, Nat.digitChar units] := by
  decide +kernel

/-- The digits of an octet are shown, the tens in front. -/
theorem clockText_octet
    (digits : ClockDigits) :
    clockText digits.octet = digits.text :=
  clockText_joinNibbles digits.tens digits.units

end ClockDigits

/-- The minute from which a data set is valid; the year counts from 2000 on. -/
structure ValidityStart where
  year : ClockDigits
  month : ClockDigits
  day : ClockDigits
  hour : ClockDigits
  minute : ClockDigits

namespace ValidityStart

def octets (start : ValidityStart) : Vector UInt8 5 :=
  #v[start.year.octet, start.month.octet, start.day.octet, start.hour.octet, start.minute.octet]

/-- All ten digits in order, with the century in front of them. -/
def text (start : ValidityStart) : String :=
  s!"20{start.year.text}-{start.month.text}-{start.day.text} {start.hour.text}:{start.minute.text} UTC"

theorem text_eq
    (start : ValidityStart) :
    let date := dateText start.year.octet start.month.octet start.day.octet
    s!"{date} {clockText start.hour.octet}:{clockText start.minute.octet} UTC" = start.text := by
  simp only [dateText, ClockDigits.clockText_octet]
  rfl

end ValidityStart

/-- The octets of partial lists of tracking areas. -/
def areaListOctets (lists : List (PartialAreaList Plmn)) : List UInt8 :=
  lists.flatMap (PartialAreaList.octets Plmn.toOctets)

/-- A ciphering data set: a key, its counter, what it opens, when and where. -/
structure CipheringDataSet where
  identifier : UInt16
  key : Vector UInt8 16
  /-- The bits in front of the length of the counter, which mean nothing. -/
  spare : Fin 8
  counter : List UInt8
  /-- One bit for each type of positioning block that the key opens. -/
  blocks : UInt32
  start : ValidityStart
  /-- In minutes. -/
  duration : UInt16
  areas : List (PartialAreaList Plmn)
  counter_lt : counter.length < 32
  areas_whole : ∀ list ∈ areas, list.IsWhole
  areas_fit : ∀ list ∈ areas, ∀ plmn ∈ list.block.networks, plmn.FitsDigits
  areas_lt : (areaListOctets areas).length < 256

namespace CipheringDataSet

/-- The octet that holds the length of the counter. -/
def counterHeader (set : CipheringDataSet) : UInt8 :=
  UInt8.ofNat (set.spare * 32 + set.counter.length)

/-- The octets of a data set, part by part. -/
def parts (set : CipheringDataSet) : List (List UInt8) :=
  [ bigEndianOctets 2 set.identifier.toNat,
    set.key.toList,
    [set.counterHeader],
    set.counter,
    bigEndianOctets 4 set.blocks.toNat,
    set.start.octets.toList,
    bigEndianOctets 2 set.duration.toNat,
    bigEndianOctets 1 (areaListOctets set.areas).length,
    areaListOctets set.areas ]

def octets (set : CipheringDataSet) : List UInt8 :=
  set.parts.flatten

/-- What is shown of a data set. -/
def value (set : CipheringDataSet) : Value :=
  .fields
    [ numberField "Ciphering set ID" set.identifier.toNat,
      octetsField "Ciphering key" set.key.toList,
      octetsField "c0" set.counter,
      numberField "E-UTRA posSIB types" set.blocks.toNat,
      textField "Validity start time" set.start.text,
      numberField "Validity duration (minutes)" set.duration.toNat,
      ⟨"Tracking area identity list", .list (set.areas.map (PartialAreaList.value id))⟩ ]

theorem counterHeader_length :
    ∀ (spare : Fin 8), ∀ length < 32,
      (UInt8.ofNat (spare * 32 + length) &&& 0x1F).toNat = length := by
  decide

theorem octets_ne_nil
    (set : CipheringDataSet) :
    set.octets ≠ [] :=
  List.cons_ne_nil _ _

end CipheringDataSet

namespace ElementValue

/-- Whole partial lists that fill a window are shown in order. -/
theorem readAreaLists_of_whole
    {lists : List (PartialAreaList Plmn)}
    {window : Window}
    (whole : ∀ list ∈ lists, list.IsWhole)
    (fit : ∀ list ∈ lists, ∀ plmn ∈ list.block.networks, plmn.FitsDigits)
    (shape : window.rest = areaListOctets lists) :
    readAreaLists window.remaining window = ⟨lists.map (PartialAreaList.value id), []⟩ := by
  have parses :
      ∀ list ∈ lists, ∀ plmn ∈ list.block.networks, readPlmn.Parses plmn.toOctets (id plmn) :=
    fun list member plmn among => readPlmn_parses (fit list member plmn among)
  have shape :
      window.rest =
        lists.flatMap (PartialAreaList.octets Plmn.toOctets) ++ AreaListEnding.complete.octets := by
    rw [shape]
    exact (List.append_nil _).symm
  have fits : AreaListEnding.Fits .complete :=
    trivial
  obtain ⟨left, enough, read⟩ := readAreaLists_append parses whole shape (Nat.le_refl _)
  generalize lists.flatMap (PartialAreaList.octets Plmn.toOctets) = front at shape read
  have after_rest : (window.advance front.length).rest = AreaListEnding.complete.octets :=
    Window.rest_behind shape
  simp only [read, readAreaLists_ending fits after_rest enough, AreaListEnding.items,
    List.append_nil]
  rfl

theorem readCipheringDataSet_readsParts
    (set : CipheringDataSet) :
    readCipheringDataSet.ReadsParts set.parts (set.value, []) := by
  have length_eq :
      (set.counterHeader &&& 0x1F).toNat = set.counter.length :=
    CipheringDataSet.counterHeader_length set.spare _ set.counter_lt
  apply (Reader.number_readsParts set.identifier.toNat_lt).bind
  apply (Reader.octets_readsParts set.key.length_toList).bind
  apply (Reader.octet_readsParts set.counterHeader).bind
  apply (Reader.octets_readsParts length_eq.symm).bind
  apply (Reader.number_readsParts set.blocks.toNat_lt).bind
  apply (Reader.vector_readsParts set.start.octets).bind
  apply (Reader.number_readsParts set.duration.toNat_lt).bind
  apply (Reader.number_readsParts set.areas_lt).bind
  apply Reader.inner_readsParts rfl
  intro window shape
  simp only [readAreaLists_of_whole set.areas_whole set.areas_fit shape, CipheringDataSet.value,
    ← set.start.text_eq]
  rfl

/-- A data set of which only a front is there fails at the part in which it ends. -/
theorem readCipheringDataSet_of_cut
    {set : CipheringDataSet}
    {count : Nat}
    {window : Window}
    (cutOff : count < set.octets.length)
    (shape : window.rest = set.octets.take count) :
    readCipheringDataSet window = .error (.tooShort (shortageWithin set.parts count)) :=
  (readCipheringDataSet_readsParts set).fails cutOff shape

section Runs

variable {header : UInt8} {behind : List UInt8} {base : Nat} {sets : List CipheringDataSet}
  {tail : Window} {fault : Option Fault}

/-- What is shown and reported of the data sets that a run behind the count finds. -/
theorem cipheringKeyData_of_run
    (found :
      ((Window.ofOctets (header :: behind) base).advance 1).runAll readCipheringDataSet =
        ⟨sets.map fun set => (set.value, []), tail, fault⟩)
    (scope : Scope) :
    cipheringKeyData scope (.ofOctets (header :: behind) base) =
      ⟨.ok (.list (sets.map CipheringDataSet.value), if fault.isSome then tail.exhaust else tail),
        (fault.toList.map fun fault =>
            ⟨.malformedElement "Ciphering data set" fault.message, tail.remainingSpan⟩) ++
          countComplaint (header.toNat % 32) sets.length
            ⟨base, base + (header :: behind).length⟩,
        scope.containerType⟩ := by
  have shown :
      (sets.map fun set => (set.value, ([] : List Diagnostic))).map Prod.fst =
        sets.map CipheringDataSet.value := by
    rw [List.map_map]
    rfl
  have silent :
      (sets.map fun set => (set.value, ([] : List Diagnostic))).flatMap Prod.snd = [] := by
    simp
  have read :
      cipheringKeyData scope (.ofOctets (header :: behind) base) =
        let run := ((Window.ofOctets (header :: behind) base).advance 1).runAll readCipheringDataSet
        ⟨.ok (.list (run.records.map Prod.fst), run.after),
          run.records.flatMap Prod.snd ++ dataSetComplaint run ++
            countComplaint (header &&& 0x1F).toNat (run.records.map Prod.fst).length
              (Window.ofOctets (header :: behind) base).remainingSpan,
          scope.containerType⟩ :=
    rfl
  have declared : (header &&& 0x1F).toNat = header.toNat % 32 :=
    lowBits_toNat 5 rfl header
  rw [read, found]
  simp only [shown, silent, declared, List.length_map, List.nil_append]
  cases fault <;> rfl

/-- A run behind the count finds the data sets in front of one that is cut off. -/
theorem runAll_of_cut
    {last : CipheringDataSet}
    {count : Nat}
    (started : 0 < count)
    (cutOff : count < last.octets.length)
    (header : UInt8)
    (sets : List CipheringDataSet)
    (base : Nat) :
    let whole := header :: sets.flatMap CipheringDataSet.octets
    let window := Window.ofOctets (whole ++ last.octets.take count) base
    (window.advance 1).runAll readCipheringDataSet =
      ⟨sets.map fun set => (set.value, []),
        window.advance whole.length,
        some (.tooShort (shortageWithin last.parts count))⟩ := by
  intro whole window
  have more : last.octets.take count ≠ [] := by
    rw [Ne, List.take_eq_nil_iff]
    rintro (none | empty)
    · exact Nat.ne_of_gt started none
    · exact last.octets_ne_nil empty
  rw [Window.runAll_of_fault
      (fun set _ => (readCipheringDataSet_readsParts set).parses)
      (fun set (_ : set ∈ sets) => set.octets_ne_nil)
      rfl more (fun after => readCipheringDataSet_of_cut cutOff),
    Window.advance_advance, Nat.add_comm]
  rfl

end Runs

/--
Data sets are read back in order, whatever the count in front of them says; a count
of another number of sets is reported, over the whole element.
-/
theorem cipheringKeyData_reads
    (header : UInt8)
    (sets : List CipheringDataSet)
    (scope : Scope)
    (base : Nat) :
    let octets := header :: sets.flatMap CipheringDataSet.octets
    let declared := header.toNat % 32
    cipheringKeyData scope (.ofOctets octets base) =
      ⟨.ok (.list (sets.map CipheringDataSet.value), (Window.ofOctets octets base).exhaust),
        if sets.length = declared then []
        else [⟨.wrongNumberOfElements declared sets.length, ⟨base, base + octets.length⟩⟩],
        scope.containerType⟩ := by
  intro octets declared
  have behindCount : 1 ≤ (Window.ofOctets octets base).remaining :=
    Nat.succ_pos _
  have found :
      ((Window.ofOctets octets base).advance 1).runAll readCipheringDataSet =
        ⟨sets.map fun set => (set.value, []), (Window.ofOctets octets base).exhaust, none⟩ := by
    rw [Window.runAll_of_complete
        (fun set _ => (readCipheringDataSet_readsParts set).parses)
        (fun set (_ : set ∈ sets) => set.octets_ne_nil) rfl,
      Window.advance_exhaust behindCount]
  exact cipheringKeyData_of_run found scope

/--
Of a data set that is cut off nothing is kept, and all sets in front of it are.  The
finding about it runs from its first octet to the end of the element, and tells how
many octets are missing of the part in which it ends.
-/
theorem cipheringKeyData_reads_cut
    (header : UInt8)
    (sets : List CipheringDataSet)
    (last : CipheringDataSet)
    {count : Nat}
    (started : 0 < count)
    (cutOff : count < last.octets.length)
    (scope : Scope)
    (base : Nat) :
    let whole := header :: sets.flatMap CipheringDataSet.octets
    let octets := whole ++ last.octets.take count
    let declared := header.toNat % 32
    cipheringKeyData scope (.ofOctets octets base) =
      ⟨.ok (.list (sets.map CipheringDataSet.value), (Window.ofOctets octets base).exhaust),
        ⟨.malformedElement "Ciphering data set" (shortageWithin last.parts count).message,
            ⟨base + whole.length, base + octets.length⟩⟩ ::
          if sets.length = declared then []
          else [⟨.wrongNumberOfElements declared sets.length, ⟨base, base + octets.length⟩⟩],
        scope.containerType⟩ := by
  intro whole octets declared
  have behind : whole.length ≤ (Window.ofOctets octets base).remaining := by
    rw [Window.remaining, Window.ofOctets_rest, List.length_append]
    exact Nat.le_add_right _ _
  have span_eq :
      ((Window.ofOctets octets base).advance whole.length).remainingSpan =
        ⟨base + whole.length, base + octets.length⟩ := by
    rw [Window.remainingSpan, Window.advance_position, Window.advance_stop behind]
    rfl
  have read := cipheringKeyData_of_run (runAll_of_cut started cutOff header sets base) scope
  rw [Option.isSome_some, if_pos rfl, Window.advance_exhaust behind, span_eq] at read
  exact read

/-- A data set for one tracking area, of thirty-nine octets. -/
def CipheringDataSet.ofOneArea : CipheringDataSet where
  identifier := 1
  key :=
    #v[0x00, 0x11, 0x22, 0x33, 0x44, 0x55, 0x66, 0x77,
      0x88, 0x99, 0xAA, 0xBB, 0xCC, 0xDD, 0xEE, 0xFF]
  spare := 0
  counter := [0x01, 0x02]
  blocks := 0x80000000
  start := ⟨⟨2, 4⟩, ⟨0, 1⟩, ⟨0, 1⟩, ⟨1, 2⟩, ⟨3, 0⟩⟩
  duration := 1440
  areas := [⟨0x00, .oneNetwork ⟨208, 93, false⟩ [1]⟩]
  counter_lt := by
    decide
  areas_whole := by
    rw [List.forall_mem_singleton]
    exact ⟨rfl, rfl⟩
  areas_fit := by
    rw [List.forall_mem_singleton, AreaBlock.networks, List.forall_mem_singleton]
    exact ⟨by decide, by decide⟩
  areas_lt := by
    decide

/-- Behind one whole data set there are two octets of a second one, which is not counted. -/
theorem cipheringKeyData_reads_cut_key :
    let set := CipheringDataSet.ofOneArea
    let octets : List UInt8 :=
      [ 0x01,
        0x00, 0x01,
        0x00, 0x11, 0x22, 0x33, 0x44, 0x55, 0x66, 0x77, 0x88, 0x99, 0xAA, 0xBB, 0xCC, 0xDD, 0xEE, 0xFF,
        0x02, 0x01, 0x02,
        0x80, 0x00, 0x00, 0x00,
        0x42, 0x10, 0x10, 0x21, 0x03,
        0x05, 0xA0,
        0x06, 0x00, 0x02, 0xF8, 0x39, 0x00, 0x01,
        0x00, 0x01 ]
    0 < 2 ∧ 2 < set.octets.length ∧ octets = 0x01 :: set.octets ++ set.octets.take 2 ∧
      ∀ scope : Scope,
        cipheringKeyData scope (.ofOctets octets 0) =
          ⟨.ok (.list [set.value], (Window.ofOctets octets 0).exhaust),
            [⟨.malformedElement "Ciphering data set"
                "Buffer too short: expected at least 16 bytes, got 0", ⟨40, 42⟩⟩],
            scope.containerType⟩ := by
  intro set octets
  have started : 0 < 2 := by
    decide
  have cutOff : 2 < set.octets.length := by
    decide
  have written : 0x01 :: [set].flatMap CipheringDataSet.octets ++ set.octets.take 2 = octets := by
    decide
  have whole_length : 0 + (0x01 :: [set].flatMap CipheringDataSet.octets).length = 40 :=
    rfl
  have message_eq :
      (shortageWithin set.parts 2).message =
        "Buffer too short: expected at least 16 bytes, got 0" := by
    decide +kernel
  refine ⟨started, cutOff, by decide, fun scope => ?_⟩
  have read := cipheringKeyData_reads_cut 0x01 [set] set started cutOff scope 0
  dsimp only at read
  rw [written, message_eq, whole_length] at read
  exact read

/-- The finding about a data set that is cut off is not that of other lists. -/
theorem cipheringKeyData_cut_isNotOutOfBounds :
    let set := CipheringDataSet.ofOneArea
    let octets := 0x01 :: set.octets ++ set.octets.take 2
    0 < 2 ∧ 2 < set.octets.length ∧
      ∀ (scope : Scope) (label : String) (span : Span),
        ⟨.outOfBounds label, span⟩ ∉ (cipheringKeyData scope (.ofOctets octets 0)).diagnostics := by
  intro set octets
  have started : 0 < 2 := by
    decide
  have cutOff : 2 < set.octets.length := by
    decide
  refine ⟨started, cutOff, fun scope label span => ?_⟩
  have read := cipheringKeyData_of_run (runAll_of_cut started cutOff 0x01 [set] 0) scope
  have diagnostics_eq :
      (cipheringKeyData scope (.ofOctets octets 0)).diagnostics = _ :=
    congrArg Reading.diagnostics read
  rw [diagnostics_eq, List.mem_append]
  rintro (aboutCut | aboutCount)
  · cases List.mem_singleton.mp aboutCut
  · cases show _ ∈ ([] : List Diagnostic) from aboutCount

end ElementValue

end LteNas
