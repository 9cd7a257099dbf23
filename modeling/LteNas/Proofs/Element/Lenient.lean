import LteNas.Proofs.Element.Cutting

namespace LteNas

/-!
# Lists that keep what is complete

Any octets are a run of items and octets that begin with none.  A lenient list
shows the items of the run; if it wanted more of them and octets are left, it
reports these once and passes over them.
-/

/-! ## Runs of items -/

section Items

variable {Item : Type}

/-- No good item is written at the front of the octets. -/
def BeginsWithNone
    (good : Item → Prop)
    (encode : Item → List UInt8)
    (octets : List UInt8) :
    Prop :=
  ∀ item, good item → ¬ encode item <+: octets

/-- Good items in front of octets: as many as were wanted, or as are there. -/
structure IsItemRun
    (good : Item → Prop)
    (encode : Item → List UInt8)
    (limit : Nat)
    (items : List Item)
    (behind : List UInt8) :
    Prop where
  areGood : ∀ item ∈ items, good item
  length_le : items.length ≤ limit
  ended : items.length < limit → BeginsWithNone good encode behind

variable {good : Item → Prop} {encode : Item → List UInt8}

theorem exists_itemRun
    (good : Item → Prop)
    (encode : Item → List UInt8)
    (limit : Nat)
    (octets : List UInt8) :
    ∃ (items : List Item) (behind : List UInt8),
      octets = items.flatMap encode ++ behind ∧ IsItemRun good encode limit items behind := by
  induction limit generalizing octets with
  | zero =>
      exact ⟨[], octets, rfl, by simp, Nat.le_refl 0, fun few => absurd few (Nat.not_lt_zero 0)⟩
  | succ limit inductionHypothesis =>
      by_cases none : BeginsWithNone good encode octets
      · exact ⟨[], octets, rfl, by simp, Nat.zero_le _, fun _ => none⟩
      · obtain ⟨item, isGood, others, rfl⟩ :
            ∃ item, good item ∧ encode item <+: octets := by
          simpa only [BeginsWithNone, not_forall, not_not, exists_prop] using none
        obtain ⟨items, behind, rfl, areGood, length_le, ended⟩ := inductionHypothesis others
        refine ⟨item :: items, behind, ?_, ?_, Nat.succ_le_succ length_le, ?_⟩
        · rw [List.flatMap_cons, List.append_assoc]
        · exact List.forall_mem_cons.mpr ⟨isGood, areGood⟩
        · exact fun few => ended (Nat.lt_of_succ_lt_succ few)

theorem beginsWithNone_nil
    (takesOctets : ∀ item, good item → encode item ≠ []) :
    BeginsWithNone good encode [] :=
  fun item isGood front => takesOctets item isGood (List.prefix_nil.mp front)

/-- Where there is an octet for each item that is wanted, all of the items are found. -/
theorem exists_itemRun_all
    (takesOctets : ∀ item, good item → encode item ≠ [])
    (octets : List UInt8) :
    ∃ (items : List Item) (behind : List UInt8),
      octets = items.flatMap encode ++ behind ∧
        (∀ item ∈ items, good item) ∧
        BeginsWithNone good encode behind := by
  obtain ⟨items, behind, shape, run⟩ := exists_itemRun good encode octets.length octets
  refine ⟨items, behind, shape, run.areGood, ?_⟩
  by_cases few : items.length < octets.length
  · exact run.ended few
  · have least :=
      length_le_of_takesOctets fun item member => takesOctets item (run.areGood item member)
    have total := congrArg List.length shape
    rw [List.length_append] at total
    have empty : behind = [] :=
      List.length_eq_zero_iff.mp (by omega)
    rw [empty]
    exact beginsWithNone_nil takesOctets

end Items

/-- The report that octets at the end of a window are not all of the part called `label`. -/
def Window.cutOff
    (window : Window)
    (label : String)
    (octets : List UInt8) :
    Diagnostic :=
  ⟨.outOfBounds label, ⟨window.stop - octets.length, window.stop⟩⟩

theorem Window.advance_cutOff
    {window : Window}
    {count : Nat}
    (fits : count ≤ window.remaining)
    (label : String)
    (octets : List UInt8) :
    (window.advance count).cutOff label octets = window.cutOff label octets := by
  rw [Window.cutOff, Window.advance_stop fits, Window.cutOff]

theorem Window.ofOctets_cutOff
    (label : String)
    (whole tail : List UInt8)
    (base : Nat) :
    (ofOctets (whole ++ tail) base).cutOff label tail =
      ⟨.outOfBounds label, ⟨base + whole.length, base + (whole ++ tail).length⟩⟩ := by
  have stop_eq : (ofOctets (whole ++ tail) base).stop = base + (whole ++ tail).length :=
    rfl
  have start_eq : base + (whole ++ tail).length - tail.length = base + whole.length := by
    rw [List.length_append]
    omega
  rw [cutOff, stop_eq, start_eq]

/-- A run that stops where octets are cut off reports them, and passes over them. -/
theorem RecordRun.of_cut
    {α : Type}
    {window : Window}
    {front behind : List UInt8}
    (shape : window.rest = front ++ behind)
    (records : List α)
    (shortage : Shortage)
    (label : String) :
    let run : RecordRun α := ⟨records, window.advance front.length, some (.tooShort shortage)⟩
    run.complaint label = [window.cutOff label behind] ∧ run.after = window.exhaust := by
  have remaining_eq := Window.remaining_of_append shape
  have within : front.length ≤ window.remaining := by
    omega
  have start_eq : window.position + front.length = window.stop - behind.length := by
    rw [Window.stop]
    omega
  simp only [RecordRun.complaint, RecordRun.after, Fault.diagnosis, Window.remainingSpan,
    Window.advance_position, Window.advance_stop within, Window.advance_exhaust within, start_eq,
    Window.cutOff, Option.isSome_some, if_true, and_self]

namespace Reader

variable {α β Item : Type} {reader record : Reader α} {window : Window}

/-! ## Reading backwards -/

theorem bind_eq_ok_iff
    {next : α → Reader β}
    {outcome : β × Window} :
    (reader >>= next) window = .ok outcome ↔
      ∃ value after, reader window = .ok (value, after) ∧ next value after = .ok outcome := by
  constructor
  · intro read
    cases first : reader window with
    | error fault =>
        rw [bind_eq_of_error first] at read
        cases read
    | ok found =>
        rw [bind_eq_of_ok first] at read
        exact ⟨_, _, rfl, read⟩
  · rintro ⟨value, after, first, second⟩
    rw [bind_eq_of_ok first, second]

theorem octet_eq_ok
    {octet : UInt8}
    {after : Window}
    (read : Reader.octet window = .ok (octet, after)) :
    window.rest = octet :: after.rest := by
  cases shape : window.rest with
  | nil =>
      rw [Reader.octet, ofRead, Window.octet_of_nil shape] at read
      cases read
  | cons first others =>
      rw [Reader.octet, ofRead, Window.octet_of_cons shape] at read
      cases read
      rw [Window.advance_rest, shape]
      rfl

theorem octets_eq_ok
    {count : Nat}
    {octets : List UInt8}
    {after : Window}
    (read : Reader.octets count window = .ok (octets, after)) :
    octets.length = count ∧ window.rest = octets ++ after.rest := by
  rw [Reader.octets, ofRead, Window.take_eq] at read
  split at read
  case isTrue enough =>
    cases read
    exact ⟨List.length_take_of_le enough, (List.take_append_drop count window.rest).symm⟩
  case isFalse =>
    cases read

/-- Octets of a fixed number are a vector. -/
theorem vector_of_read
    {count : Nat}
    {octets : List UInt8}
    {after : Window}
    (read : Reader.octets count window = .ok (octets, after)) :
    ∃ vector : Vector UInt8 count, window.rest = vector.toList ++ after.rest := by
  obtain ⟨length_eq, shape⟩ := octets_eq_ok read
  exact ⟨⟨octets.toArray, length_eq⟩, shape⟩

theorem number_eq_ok
    {width number : Nat}
    {after : Window}
    (read : Reader.number width window = .ok (number, after)) :
    number < 256 ^ width ∧ window.rest = bigEndianOctets width number ++ after.rest := by
  rw [Reader.number, ofRead, Window.number_eq] at read
  split at read
  case isTrue enough =>
    cases read
    have length_eq : (window.rest.take width).length = width :=
      List.length_take_of_le enough
    have small := bigEndian_lt (window.rest.take width)
    have written := bigEndianOctets_bigEndian (window.rest.take width)
    rw [length_eq] at small written
    exact ⟨small, by rw [written, Window.advance_rest, List.take_append_drop]⟩
  case isFalse =>
    cases read

theorem inner_eq_ok
    {count : Nat}
    {body after : Window}
    (read : Reader.inner count window = .ok (body, after)) :
    body.rest.length = count ∧ window.rest = body.rest ++ after.rest := by
  rw [Reader.inner, ofRead, Window.inner_eq] at read
  split at read
  case isTrue enough =>
    cases read
    exact ⟨List.length_take_of_le enough, (List.take_append_drop count window.rest).symm⟩
  case isFalse =>
    cases read

/-- What may be missing is missing, or is read. -/
theorem ifMore_eq_ok
    {value : Option α}
    {after : Window}
    (read : Reader.ifMore reader window = .ok (value, after)) :
    window.rest = [] ∧ after = window ∨
      ∃ found, reader window = .ok (found, after) := by
  rw [Reader.ifMore, bind_eq_of_ok (hasMore_eq window)] at read
  cases empty : window.rest with
  | nil =>
      rw [Window.isEmpty, empty] at read
      cases read
      exact .inl ⟨rfl, rfl⟩
  | cons first others =>
      rw [Window.isEmpty, empty] at read
      obtain ⟨found, _, first, read⟩ := bind_eq_ok_iff.mp read
      cases read
      exact .inr ⟨found, first⟩

/-- A reader that is applied several times finds as many items, one behind the other. -/
theorem times_eq_ok
    {encode : Item → List UInt8}
    (finds : ∀ {window after : Window} {value : α},
      reader window = .ok (value, after) →
        ∃ item, window.rest = encode item ++ after.rest)
    {count : Nat}
    {values : List α}
    {after : Window}
    (read : Reader.times reader count window = .ok (values, after)) :
    ∃ items : List Item,
      items.length = count ∧ window.rest = items.flatMap encode ++ after.rest := by
  induction count generalizing window values with
  | zero =>
      cases read
      exact ⟨[], rfl, rfl⟩
  | succ count inductionHypothesis =>
      obtain ⟨value, behind, first, read⟩ := bind_eq_ok_iff.mp read
      obtain ⟨others, last, second, read⟩ := bind_eq_ok_iff.mp read
      cases read
      obtain ⟨item, shape⟩ := finds first
      obtain ⟨items, rfl, behind_shape⟩ := inductionHypothesis second
      refine ⟨item :: items, rfl, ?_⟩
      rw [shape, behind_shape, List.flatMap_cons, List.append_assoc]

/-! ## Readers that want more octets -/

/-- Where the reader fails, it wants more octets than there are. -/
def FailsShort (reader : Reader α) : Prop :=
  ∀ (window : Window) (fault : Fault),
    reader window = .error fault → ∃ shortage, fault = .tooShort shortage

theorem ofRead_failsShort
    (read : Window → Except Shortage (α × Window)) :
    (ofRead read).FailsShort := by
  intro window fault failed
  rw [ofRead] at failed
  cases outcome : read window with
  | error shortage =>
      rw [outcome] at failed
      cases failed
      exact ⟨shortage, rfl⟩
  | ok found =>
      rw [outcome] at failed
      cases failed

theorem pure_failsShort
    (value : α) :
    FailsShort (Pure.pure value) := by
  intro window fault failed
  cases failed

theorem rest_failsShort :
    Reader.rest.FailsShort := by
  intro window fault failed
  cases failed

protected theorem FailsShort.bind
    {next : α → Reader β}
    (front : reader.FailsShort)
    (back : ∀ value, (next value).FailsShort) :
    (reader >>= next).FailsShort := by
  intro window fault failed
  cases first : reader window with
  | error reason =>
      rw [bind_eq_of_error first] at failed
      cases failed
      exact front window _ first
  | ok found =>
      rw [bind_eq_of_ok first] at failed
      exact back _ _ fault failed

theorem FailsShort.returning
    (short : reader.FailsShort)
    (make : α → β) :
    FailsShort (do return make (← reader)) :=
  short.bind fun value => pure_failsShort (make value)

/-- A run stops at a record that wants more octets than there are. -/
theorem FailsShort.run_fault
    (short : record.FailsShort)
    {limit : Nat}
    {fault : Fault}
    (failed : (window.run record limit).fault = some fault) :
    ∃ shortage, fault = .tooShort shortage := by
  induction limit generalizing window with
  | zero =>
      cases failed
  | succ limit inductionHypothesis =>
      rw [Window.run] at failed
      split at failed
      · cases failed
      · cases outcome : record window with
        | error reason =>
            rw [outcome] at failed
            cases failed
            exact short window _ outcome
        | ok found =>
            rw [outcome] at failed
            exact inductionHypothesis failed

theorem FailsShort.every
    (short : record.FailsShort) :
    (every record).FailsShort := by
  intro window fault failed
  rw [Reader.every] at failed
  cases outcome : (window.runAll record).fault with
  | none =>
      simp only [outcome] at failed
      cases failed
  | some reason =>
      simp only [outcome] at failed
      cases failed
      exact short.run_fault outcome

/-! ## Lenient lists -/

/-- The reader takes good items off the front of a window, and wants more octets without one. -/
structure Recognizes
    (reader : Reader α)
    (good : Item → Prop)
    (encode : Item → List UInt8)
    (make : Item → α) :
    Prop where
  takesOctets : ∀ item, good item → encode item ≠ []
  parses : ∀ item, good item → reader.Parses (encode item) (make item)
  found : ∀ {window : Window} {outcome : α × Window},
    reader window = .ok outcome → ∃ item, good item ∧ encode item <+: window.rest
  short : reader.FailsShort

namespace Recognizes

variable {good : Item → Prop} {encode : Item → List UInt8} {make : Item → α} {limit : Nat}
  {items : List Item} {behind : List UInt8}

theorem fails
    (recognizes : record.Recognizes good encode make)
    (none : BeginsWithNone good encode window.rest) :
    ∃ shortage, record window = .error (.tooShort shortage) := by
  cases outcome : record window with
  | error fault =>
      obtain ⟨shortage, rfl⟩ := recognizes.short window fault outcome
      exact ⟨shortage, rfl⟩
  | ok found =>
      obtain ⟨item, isGood, front⟩ := recognizes.found outcome
      exact absurd front (none item isGood)

theorem beginsWithNone
    {fault : Fault}
    (recognizes : record.Recognizes good encode make)
    (window : Window)
    (failed : record window = .error fault) :
    BeginsWithNone good encode window.rest := by
  rintro item isGood ⟨others, shape⟩
  have read := recognizes.parses item isGood window others shape.symm
  rw [failed] at read
  cases read

/-- A run ends without a fault when it has all items, or the octets end behind one. -/
theorem run_of_ended
    (recognizes : record.Recognizes good encode make)
    (run : IsItemRun good encode limit items behind)
    (ended : items.length = limit ∨ behind = [])
    (shape : window.rest = items.flatMap encode ++ behind) :
    window.run record limit =
      ⟨items.map make, window.advance (items.flatMap encode).length, none⟩ := by
  have parses := fun item member => recognizes.parses item (run.areGood item member)
  have takesOctets := fun item member => recognizes.takesOctets item (run.areGood item member)
  obtain ⟨more, rfl⟩ := Nat.exists_eq_add_of_le run.length_le
  have stops :
      (window.advance (items.flatMap encode).length).run record more =
        ⟨[], window.advance (items.flatMap encode).length, none⟩ := by
    rcases ended with all | empty
    · obtain rfl : more = 0 := by
        omega
      rfl
    · exact Window.run_of_rest_nil ((Window.rest_behind shape).trans empty) record more
  rw [Window.run_append parses takesOctets more shape, stops]
  simp

/-- A run that wanted more items than there are fails at the octets that are left. -/
theorem run_of_cut
    (recognizes : record.Recognizes good encode make)
    (run : IsItemRun good encode limit items behind)
    (few : items.length < limit)
    (more : behind ≠ [])
    (shape : window.rest = items.flatMap encode ++ behind) :
    ∃ shortage,
      window.run record limit =
        ⟨items.map make, window.advance (items.flatMap encode).length,
          some (.tooShort shortage)⟩ := by
  have parses := fun item member => recognizes.parses item (run.areGood item member)
  have takesOctets := fun item member => recognizes.takesOctets item (run.areGood item member)
  have after_rest : (window.advance (items.flatMap encode).length).rest = behind :=
    Window.rest_behind shape
  have notEmpty : (window.advance (items.flatMap encode).length).isEmpty = false := by
    rwa [Window.isEmpty, after_rest, List.isEmpty_eq_false_iff]
  have none : BeginsWithNone good encode (window.advance (items.flatMap encode).length).rest := by
    rw [after_rest]
    exact run.ended few
  obtain ⟨shortage, failed⟩ := recognizes.fails none
  obtain ⟨wanted, rfl⟩ := Nat.exists_eq_add_of_lt few
  refine ⟨shortage, ?_⟩
  rw [Nat.add_assoc, Window.run_append parses takesOctets _ shape, Window.run, notEmpty, failed]
  simp

/-- A list is read without a complaint when it has all items, or the octets end behind one. -/
theorem upTo_of_ended
    (recognizes : record.Recognizes good encode make)
    (run : IsItemRun good encode limit items behind)
    (ended : items.length = limit ∨ behind = [])
    (label : String)
    (shape : window.rest = items.flatMap encode ++ behind) :
    Reader.upTo limit label record window =
      .ok ((items.map make, []), window.advance (items.flatMap encode).length) := by
  rw [Reader.upTo, recognizes.run_of_ended run ended shape]
  rfl

/-- A list that wanted more items than there are reports the octets that are left, once. -/
theorem upTo_of_cut
    (recognizes : record.Recognizes good encode make)
    (run : IsItemRun good encode limit items behind)
    (few : items.length < limit)
    (more : behind ≠ [])
    (label : String)
    (shape : window.rest = items.flatMap encode ++ behind) :
    Reader.upTo limit label record window =
      .ok ((items.map make, [window.cutOff label behind]), window.exhaust) := by
  obtain ⟨shortage, cut⟩ := recognizes.run_of_cut run few more shape
  obtain ⟨complaint_eq, after_eq⟩ := RecordRun.of_cut shape (items.map make) shortage label
  rw [Reader.upTo, cut]
  dsimp only
  rw [complaint_eq, after_eq]

/-- A list to the end takes all octets, and reports those that are no item, if there are any. -/
theorem completeOnes_eq
    (recognizes : record.Recognizes good encode make)
    (areGood : ∀ item ∈ items, good item)
    (none : BeginsWithNone good encode behind)
    (label : String)
    (shape : window.rest = items.flatMap encode ++ behind) :
    Reader.completeOnes label record window =
      .ok
        ((items.map make, if behind = [] then [] else [window.cutOff label behind]),
          window.exhaust) := by
  have least :=
    length_le_of_takesOctets fun item member => recognizes.takesOctets item (areGood item member)
  have remaining_eq : window.remaining = (items.flatMap encode).length + behind.length :=
    Window.remaining_of_append shape
  have run : IsItemRun good encode window.remaining items behind :=
    ⟨areGood, by omega, fun _ => none⟩
  rw [Reader.completeOnes]
  split
  case isTrue empty =>
    have length_eq : (items.flatMap encode).length = window.remaining := by
      rw [remaining_eq, empty]
      rfl
    rw [recognizes.upTo_of_ended run (.inr empty) label shape, length_eq, Window.exhaust]
  case isFalse more =>
    have some := List.length_pos_iff.mpr more
    exact recognizes.upTo_of_cut run (by omega) more label shape

end Recognizes

end Reader

end LteNas
