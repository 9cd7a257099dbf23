import LteNas.Proofs.Element.Parsing

namespace LteNas

/-!
# Readers of a fixed width

A reader of a fixed width takes so many octets, and fails where fewer are left.
Any octets fall into records of a width, up to a limit or up to a record that is
cut off, and a lenient reader stops there.
-/

namespace Reader

variable {α β : Type} {reader : Reader α}

/-- The reader takes so many octets, and fails where fewer are left. -/
structure Takes (reader : Reader α) (width : Nat) : Prop where
  takes {window : Window} :
    width ≤ window.remaining → ∃ value, reader window = .ok (value, window.advance width)
  fails {window : Window} :
    window.remaining < width → ∃ fault, reader window = .error fault

theorem octets_takes
    (count : Nat) :
    (Reader.octets count).Takes count where
  takes enough := by
    rw [Reader.octets, ofRead, Window.take_eq, if_pos enough]
    exact ⟨_, rfl⟩
  fails few := by
    rw [Reader.octets, ofRead, Window.take_eq, if_neg (Nat.not_le_of_lt few)]
    exact ⟨_, rfl⟩

theorem number_takes
    (width : Nat) :
    (Reader.number width).Takes width where
  takes enough := by
    rw [Reader.number, ofRead, Window.number_eq, if_pos enough]
    exact ⟨_, rfl⟩
  fails few := by
    rw [Reader.number, ofRead, Window.number_eq, if_neg (Nat.not_le_of_lt few)]
    exact ⟨_, rfl⟩

theorem pure_takes
    (value : α) :
    Takes (Pure.pure value) 0 where
  takes {window} _ := by
    rw [Window.advance_zero]
    exact ⟨value, rfl⟩
  fails few :=
    absurd few (Nat.not_lt_zero _)

theorem bind_eq_of_error
    {next : α → Reader β}
    {window : Window}
    {fault : Fault}
    (first : reader window = .error fault) :
    (reader >>= next) window = .error fault := by
  show Except.bind (reader window) (fun (value, after) => next value after) = _
  rw [first, Except.bind]

protected theorem Takes.bind
    {next : α → Reader β}
    {width more : Nat}
    (front : reader.Takes width)
    (back : ∀ value, (next value).Takes more) :
    (reader >>= next).Takes (width + more) where
  takes {window} enough := by
    obtain ⟨value, first⟩ := front.takes (Nat.le_of_add_right_le enough)
    have behind : more ≤ (window.advance width).remaining := by
      rw [Window.advance_remaining]
      omega
    rw [bind_eq_of_ok first, ← Window.advance_advance]
    exact (back value).takes behind
  fails {window} few := by
    by_cases within : width ≤ window.remaining
    · obtain ⟨value, first⟩ := front.takes within
      have behind : (window.advance width).remaining < more := by
        rw [Window.advance_remaining]
        omega
      rw [bind_eq_of_ok first]
      exact (back value).fails behind
    · obtain ⟨fault, first⟩ := front.fails (Nat.lt_of_not_le within)
      exact ⟨fault, bind_eq_of_error first⟩

theorem Takes.returning
    {width : Nat}
    (takes : reader.Takes width)
    (make : α → β) :
    Takes (do return make (← reader)) width :=
  takes.bind fun value => pure_takes (make value)

end Reader

/-! ## Records of a width -/

/-- The records before some octets are all that were wanted, or the next one is cut off. -/
def RecordsEnd (limit width count : Nat) (behind : List UInt8) : Prop :=
  count = limit ∨ count < limit ∧ behind.length < width

section Records

variable {Item α : Type} {encode : Item → List UInt8} {width : Nat}

/-- Octets are as many records as are wanted, or as there are octets for, and a rest. -/
theorem exists_records
    (isWritten : ∀ octets, octets.length = width → ∃ item, encode item = octets)
    (limit : Nat)
    (octets : List UInt8) :
    ∃ (items : List Item) (behind : List UInt8),
      octets = items.flatMap encode ++ behind ∧
        RecordsEnd limit width items.length behind := by
  induction limit generalizing octets with
  | zero =>
      exact ⟨[], octets, rfl, .inl rfl⟩
  | succ limit inductionHypothesis =>
      by_cases few : octets.length < width
      · exact ⟨[], octets, rfl, .inr ⟨Nat.succ_pos limit, few⟩⟩
      · obtain ⟨item, written⟩ :=
          isWritten (octets.take width) (List.length_take_of_le (Nat.le_of_not_lt few))
        obtain ⟨items, behind, shape, ended⟩ := inductionHypothesis (octets.drop width)
        refine ⟨item :: items, behind, ?_, ?_⟩
        · rw [List.flatMap_cons, List.append_assoc, ← shape, written, List.take_append_drop]
        · rw [RecordsEnd, List.length_cons] at *
          omega

variable {record : Reader α} {make : Item → α} {items : List Item} {limit : Nat}
  {window : Window} {behind : List UInt8}

/-- A run gets nowhere when no record is wanted, or the first is cut off. -/
theorem Window.run_of_recordsEnd
    (takes : record.Takes width)
    (ended : RecordsEnd limit width 0 window.rest) :
    (window.run record limit).records = [] ∧ (window.run record limit).tail = window := by
  rcases ended with rfl | ⟨wanted, few⟩
  · exact ⟨rfl, rfl⟩
  · obtain ⟨fault, failed⟩ := takes.fails few
    obtain ⟨more, rfl⟩ := Nat.exists_eq_add_one_of_ne_zero (Nat.ne_of_gt wanted)
    rw [Window.run, failed]
    split
    · exact ⟨rfl, rfl⟩
    · exact ⟨rfl, rfl⟩

/-- A lenient reader takes the records up to where they end. -/
theorem Reader.available_of_recordsEnd
    (takes : record.Takes width)
    (parses : ∀ item ∈ items, record.Parses (encode item) (make item))
    (takesOctets : ∀ item ∈ items, encode item ≠ [])
    (ended : RecordsEnd limit width items.length behind)
    (shape : window.rest = items.flatMap encode ++ behind) :
    Reader.available limit record window =
      .ok (items.map make, window.advance (items.flatMap encode).length) := by
  obtain ⟨more, rfl⟩ : ∃ more, limit = items.length + more := by
    refine Nat.exists_eq_add_of_le ?_
    rcases ended with rfl | ⟨few, -⟩
    · exact Nat.le_refl _
    · exact Nat.le_of_lt few
  have after_rest : (window.advance (items.flatMap encode).length).rest = behind :=
    Window.rest_behind shape
  have endedBehind :
      RecordsEnd more width 0 (window.advance (items.flatMap encode).length).rest := by
    rw [after_rest]
    rw [RecordsEnd] at *
    omega
  obtain ⟨records_eq, tail_eq⟩ := Window.run_of_recordsEnd takes endedBehind
  rw [Reader.available, Window.run_append parses takesOctets more shape]
  simp only [records_eq, tail_eq, List.append_nil]

end Records

end LteNas
