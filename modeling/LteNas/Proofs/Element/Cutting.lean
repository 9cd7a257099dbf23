import LteNas.Proofs.Element.Width

namespace LteNas

/-!
# Records that are cut off

A record is read part by part, each part at once.  Where the octets end inside a
record, reading fails at the part in which they end, and the fault tells how
many octets this part has and how many of them are there.  A run of records
keeps those in front of the one that is cut off.
-/

/-- What is missing where so many octets are left of parts that are read one by one. -/
def shortageWithin : (parts : List (List UInt8)) → (left : Nat) → Shortage
  | [], left =>
      ⟨0, left⟩
  | part :: parts, left =>
      if left < part.length then
        ⟨part.length, left⟩
      else
        shortageWithin parts (left - part.length)

section Shortages

variable {parts : List (List UInt8)} {left : Nat}

/-- Octets that end within the first parts end there, whatever parts follow. -/
theorem shortageWithin_append_of_lt
    (within : left < parts.flatten.length)
    (others : List (List UInt8)) :
    shortageWithin (parts ++ others) left = shortageWithin parts left := by
  induction parts generalizing left with
  | nil =>
      exact absurd within (Nat.not_lt_zero _)
  | cons part parts inductionHypothesis =>
      rw [List.flatten_cons, List.length_append] at within
      rw [List.cons_append, shortageWithin, shortageWithin]
      split
      · rfl
      · rw [inductionHypothesis (by omega)]

/-- Parts that are there as a whole are left behind. -/
theorem shortageWithin_append_of_le
    (whole : parts.flatten.length ≤ left)
    (others : List (List UInt8)) :
    shortageWithin (parts ++ others) left =
      shortageWithin others (left - parts.flatten.length) := by
  induction parts generalizing left with
  | nil =>
      rfl
  | cons part parts inductionHypothesis =>
      rw [List.flatten_cons, List.length_append] at whole ⊢
      have notIn : ¬ left < part.length := by
        omega
      rw [List.cons_append, shortageWithin, if_neg notIn, inductionHypothesis (by omega),
        Nat.sub_sub]

end Shortages

namespace Reader

variable {α β : Type} {reader : Reader α} {part : List UInt8} {parts others : List (List UInt8)}
  {value : α}

/-- The reader takes the parts one by one, as the value, and fails at the part in which octets end. -/
structure ReadsParts
    (reader : Reader α)
    (parts : List (List UInt8))
    (value : α) :
    Prop where
  parses : reader.Parses parts.flatten value
  fails {window : Window} {left : Nat} :
    left < parts.flatten.length →
      window.rest = parts.flatten.take left →
        reader window = .error (.tooShort (shortageWithin parts left))

/-- A reader that asks for all its octets at once reads one part. -/
theorem Parses.readsParts
    (parses : reader.Parses part value)
    (fails : ∀ window : Window, window.remaining < part.length →
      reader window = .error (.tooShort ⟨part.length, window.remaining⟩)) :
    reader.ReadsParts [part] value where
  parses := by
    rwa [List.flatten_singleton]
  fails {window left} within shape := by
    rw [List.flatten_singleton] at within shape
    have remaining_eq : window.remaining = left := by
      rw [Window.remaining, shape, List.length_take_of_le (Nat.le_of_lt within)]
    rw [fails window (by rwa [remaining_eq]), remaining_eq, shortageWithin, if_pos within]

theorem octet_readsParts
    (octet : UInt8) :
    Reader.octet.ReadsParts [[octet]] octet := by
  apply (octet_parses octet).readsParts
  intro window few
  have empty : window.rest = [] :=
    List.length_eq_zero_iff.mp (Nat.lt_one_iff.mp few)
  rw [Reader.octet, ofRead, Window.octet_of_nil empty, Window.remaining, empty]
  rfl

theorem octets_readsParts
    {count : Nat}
    (length_eq : part.length = count) :
    (Reader.octets count).ReadsParts [part] part := by
  subst count
  apply (octets_parses part).readsParts
  intro window few
  rw [Reader.octets, ofRead, Window.take_eq, if_neg (Nat.not_le_of_lt few)]
  rfl

theorem number_readsParts
    {width number : Nat}
    (fits : number < 256 ^ width) :
    (Reader.number width).ReadsParts [bigEndianOctets width number] number := by
  apply (number_parses fits).readsParts
  rw [bigEndianOctets_length]
  intro window few
  rw [Reader.number, ofRead, Window.number_eq, if_neg (Nat.not_le_of_lt few)]
  rfl

/-- A reader that goes on with the octets of an inner window, wherever they stand, reads one part. -/
theorem inner_readsParts
    {next : Window → Reader β}
    {count : Nat}
    {last : β}
    (length_eq : part.length = count)
    (done : ∀ window : Window, window.rest = part → next window = Pure.pure last) :
    (Reader.inner count >>= next).ReadsParts [part] last := by
  subst count
  have parses : (Reader.inner part.length >>= next).Parses part last := by
    intro window behind shape
    rw [bind_eq_of_ok (inner_of_append shape), done _ (Window.ofOctets_rest part _)]
    rfl
  apply parses.readsParts
  intro window few
  have cutOff :
      Reader.inner part.length window = .error (.tooShort ⟨part.length, window.remaining⟩) := by
    rw [Reader.inner, ofRead, Window.inner_eq, if_neg (Nat.not_le_of_lt few)]
    rfl
  exact bind_eq_of_error cutOff

theorem pure_readsParts
    (value : α) :
    ReadsParts (Pure.pure value) [] value where
  parses :=
    pure_parses value
  fails within _ :=
    absurd within (Nat.not_lt_zero _)

protected theorem ReadsParts.bind
    {next : α → Reader β}
    {last : β}
    (front : reader.ReadsParts parts value)
    (back : (next value).ReadsParts others last) :
    (reader >>= next).ReadsParts (parts ++ others) last where
  parses := by
    rw [List.flatten_append]
    exact front.parses.bind back.parses
  fails {window left} within shape := by
    rw [List.flatten_append] at within shape
    by_cases inFront : left < parts.flatten.length
    · rw [List.take_append_of_le_length (Nat.le_of_lt inFront)] at shape
      rw [bind_eq_of_error (front.fails inFront shape), shortageWithin_append_of_lt inFront]
    · have whole := Nat.le_of_not_lt inFront
      rw [List.take_append, List.take_of_length_le whole] at shape
      rw [List.length_append] at within
      have after_rest :
          (window.advance parts.flatten.length).rest =
            others.flatten.take (left - parts.flatten.length) :=
        Window.rest_behind shape
      rw [bind_eq_of_ok (front.parses window _ shape), back.fails (by omega) after_rest,
        shortageWithin_append_of_le whole]

theorem ReadsParts.returning
    (reads : reader.ReadsParts parts value)
    (make : α → β) :
    ReadsParts (do return make (← reader)) parts (make value) := by
  have returned :
      ReadsParts (do return make (← reader)) (parts ++ []) (make value) :=
    reads.bind (pure_readsParts (make value))
  rwa [List.append_nil] at returned

/-- Octets that are told apart by their places are read at once. -/
theorem vector_readsParts
    {count : Nat}
    (octets : Vector UInt8 count) :
    (Reader.vector count).ReadsParts [octets.toList] octets := by
  have places :
      (Vector.ofFn fun place : Fin count => octets.toList.getD place.val 0) = octets := by
    ext place inside
    simp
  have read := (octets_readsParts octets.length_toList).returning
    fun front => Vector.ofFn fun place : Fin count => front.getD place.val 0
  rwa [places] at read

end Reader

/-! ## Runs -/

section Runs

variable {Item α : Type} {record : Reader α} {encode : Item → List UInt8} {make : Item → α}
  {items : List Item} {window : Window} {behind : List UInt8}

/-- A run comes to the octets behind its records with some of its limit left. -/
theorem Window.runAll_append
    (parses : ∀ item ∈ items, record.Parses (encode item) (make item))
    (takesOctets : ∀ item ∈ items, encode item ≠ [])
    (shape : window.rest = items.flatMap encode ++ behind)
    (more : behind ≠ []) :
    ∃ limit,
      window.runAll record =
        let others :=
          (window.advance (items.flatMap encode).length).run record (limit + 1)
        { others with records := items.map make ++ others.records } := by
  have least := length_le_of_takesOctets takesOctets
  have some := List.length_pos_iff.mpr more
  have remaining_eq : window.remaining = (items.flatMap encode).length + behind.length :=
    Window.remaining_of_append shape
  obtain ⟨limit, limit_eq⟩ : ∃ limit, window.remaining = items.length + (limit + 1) :=
    ⟨window.remaining - items.length - 1, by omega⟩
  refine ⟨limit, ?_⟩
  rw [Window.runAll, limit_eq, Window.run_append parses takesOctets (limit + 1) shape]

/-- A run that wants a record stops where none can be read. -/
theorem Window.run_of_fault
    {fault : Fault}
    (more : window.rest ≠ [])
    (failed : record window = .error fault)
    (limit : Nat) :
    window.run record (limit + 1) = ⟨[], window, some fault⟩ := by
  have notEmpty : window.isEmpty = false := by
    rwa [Window.isEmpty, List.isEmpty_eq_false_iff]
  rw [Window.run, notEmpty, failed]
  rfl

/-- A run keeps the records in front of one that cannot be read where it stands. -/
theorem Window.runAll_of_fault_at
    {fault : Fault}
    (parses : ∀ item ∈ items, record.Parses (encode item) (make item))
    (takesOctets : ∀ item ∈ items, encode item ≠ [])
    (shape : window.rest = items.flatMap encode ++ behind)
    (more : behind ≠ [])
    (failed : record (window.advance (items.flatMap encode).length) = .error fault) :
    window.runAll record =
      ⟨items.map make, window.advance (items.flatMap encode).length, some fault⟩ := by
  obtain ⟨limit, run⟩ := Window.runAll_append parses takesOctets shape more
  have behindMore : (window.advance (items.flatMap encode).length).rest ≠ [] := by
    rwa [Window.rest_behind shape]
  rw [run, Window.run_of_fault behindMore failed]
  simp

/-- A run keeps the records in front of one that cannot be read, and stops there. -/
theorem Window.runAll_of_fault
    {fault : Fault}
    (parses : ∀ item ∈ items, record.Parses (encode item) (make item))
    (takesOctets : ∀ item ∈ items, encode item ≠ [])
    (shape : window.rest = items.flatMap encode ++ behind)
    (more : behind ≠ [])
    (fails : ∀ after : Window, after.rest = behind → record after = .error fault) :
    window.runAll record =
      ⟨items.map make, window.advance (items.flatMap encode).length, some fault⟩ := by
  have after_rest : (window.advance (items.flatMap encode).length).rest = behind :=
    Window.rest_behind shape
  exact Window.runAll_of_fault_at parses takesOctets shape more (fails _ after_rest)

end Runs

end LteNas
