import LteNas.Element.Decoder
import LteNas.Proofs.Octets.Window

namespace LteNas

/-!
# What readers make of octets

A reader parses octets when it takes exactly them, whatever stands behind them,
and exhausts octets when it takes them where nothing stands behind them.  Both
are built up along the reader, so that a decoder is read once, against the
octets of what it decodes.
-/

namespace Reader

variable {α β : Type} {reader : Reader α} {octets others : List UInt8} {value : α}

/-- The reader takes the octets off the front of any window, as the value. -/
def Parses (reader : Reader α) (octets : List UInt8) (value : α) : Prop :=
  ∀ (window : Window) (behind : List UInt8),
    window.rest = octets ++ behind →
      reader window = .ok (value, window.advance octets.length)

/-- The reader takes the octets, with which a window ends, as the value. -/
def Exhausts (reader : Reader α) (octets : List UInt8) (value : α) : Prop :=
  ∀ window : Window,
    window.rest = octets →
      reader window = .ok (value, window.exhaust)

theorem Parses.exhausts
    (parses : reader.Parses octets value) :
    reader.Exhausts octets value := by
  intro window shape
  have length_eq : octets.length = window.remaining := by
    rw [Window.remaining, shape]
  rw [parses window [] (by rw [shape, List.append_nil]), length_eq, Window.exhaust]

/-! ## Looking at the window -/

theorem here_eq
    (window : Window) :
    Reader.here window = .ok (window, window) := by
  rfl

theorem remaining_eq
    (window : Window) :
    Reader.remaining window = .ok (window.remaining, window) := by
  rfl

theorem hasMore_eq
    (window : Window) :
    Reader.hasMore window = .ok (!window.isEmpty, window) := by
  rfl

/-! ## Readers in sequence -/

theorem pure_parses
    (value : α) :
    Parses (Pure.pure value) [] value := by
  intro window behind _
  rw [List.length_nil, Window.advance_zero]
  rfl

theorem bind_eq_of_ok
    {next : α → Reader β}
    {window after : Window}
    (first : reader window = .ok (value, after)) :
    (reader >>= next) window = next value after := by
  show Except.bind (reader window) (fun (value, after) => next value after) = _
  rw [first, Except.bind]

namespace Parses

variable {next : α → Reader β} {last : β}

protected theorem bind
    (front : reader.Parses octets value)
    (back : (next value).Parses others last) :
    (reader >>= next).Parses (octets ++ others) last := by
  intro window behind shape
  rw [List.append_assoc] at shape
  have after_rest : (window.advance octets.length).rest = others ++ behind :=
    Window.rest_behind shape
  rw [bind_eq_of_ok (front window _ shape), back _ behind after_rest, Window.advance_advance,
    List.length_append]

/-- What the reader behind does may depend on where the window ends. -/
theorem bind_exhausts
    (front : reader.Parses octets value)
    (back : (next value).Exhausts others last) :
    (reader >>= next).Exhausts (octets ++ others) last := by
  intro window shape
  have after_rest : (window.advance octets.length).rest = others :=
    Window.rest_behind shape
  have fits : octets.length ≤ window.remaining := by
    simp [Window.remaining, shape]
  rw [bind_eq_of_ok (front window _ shape), back _ after_rest, Window.advance_exhaust fits]

theorem returning
    (parses : reader.Parses octets value)
    (make : α → β) :
    Parses (do return make (← reader)) octets (make value) := by
  have returned :
      Parses (do return make (← reader)) (octets ++ []) (make value) :=
    parses.bind (pure_parses (make value))
  rwa [List.append_nil] at returned

theorem expectAtLeast
    {next : PUnit → Reader β}
    {length : Nat}
    (least : length ≤ octets.length)
    (parses : (next ⟨⟩).Parses octets last) :
    (Reader.expectAtLeast length >>= next).Parses octets last := by
  intro window behind shape
  have enough : ¬ window.remaining < length := by
    rw [Window.remaining_of_append shape]
    omega
  have expected : Reader.expectAtLeast length window = .ok (⟨⟩, window) := by
    rw [Reader.expectAtLeast, bind_eq_of_ok (remaining_eq window), if_neg enough]
    rfl
  rw [bind_eq_of_ok expected]
  exact parses window behind shape

theorem blaming
    (parses : reader.Parses octets value)
    (fault : Fault) :
    (reader.blaming fault).Parses octets value := by
  intro window behind shape
  rw [Reader.blaming, parses window behind shape]
  rfl

end Parses

namespace Exhausts

variable {next : α → Reader β} {last : β}

/-- Behind a reader that leaves nothing there is nothing to read. -/
protected theorem bind
    (front : reader.Exhausts octets value)
    (back : (next value).Exhausts [] last) :
    (reader >>= next).Exhausts octets last := by
  intro window shape
  have after_rest : window.exhaust.rest = [] := by
    rw [Window.exhaust, Window.advance_rest, Window.remaining, List.drop_length]
  rw [bind_eq_of_ok (front window shape), back _ after_rest,
    Window.exhaust_of_rest_nil after_rest]

theorem returning
    (exhausts : reader.Exhausts octets value)
    (make : α → β) :
    Exhausts (do return make (← reader)) octets (make value) :=
  exhausts.bind (pure_parses (make value)).exhausts

/-- A reader that starts by looking at the window takes octets wherever they stand. -/
theorem here
    {next : Window → Reader β}
    (exhausts : ∀ window, (next window).Exhausts octets last) :
    (Reader.here >>= next).Exhausts octets last := by
  intro window shape
  rw [bind_eq_of_ok (here_eq window)]
  exact exhausts window window shape

theorem expectExactly
    {next : PUnit → Reader β}
    {length : Nat}
    (length_eq : octets.length = length)
    (exhausts : (next ⟨⟩).Exhausts octets last) :
    (Reader.expectExactly length >>= next).Exhausts octets last := by
  intro window shape
  have expected : Reader.expectExactly length window = .ok (⟨⟩, window) := by
    rw [Reader.expectExactly, bind_eq_of_ok (remaining_eq window), Window.remaining,
      shape, length_eq, if_neg (not_not_intro rfl)]
    rfl
  rw [bind_eq_of_ok expected]
  exact exhausts window shape

end Exhausts

/-! ## Single reads -/

theorem octet_parses
    (octet : UInt8) :
    Reader.octet.Parses [octet] octet := by
  intro window behind shape
  rw [Reader.octet, ofRead, Window.octet_of_cons shape]
  rfl

theorem octets_parses
    (octets : List UInt8) :
    (Reader.octets octets.length).Parses octets octets := by
  intro window behind shape
  have fits : octets.length ≤ window.remaining := by
    simp [Window.remaining, shape]
  have front : window.rest.take octets.length = octets := by
    rw [shape, List.take_left]
  rw [Reader.octets, ofRead, Window.take_eq, if_pos fits, front]
  rfl

/-- Octets of a fixed number are parsed as such. -/
theorem vector_parses
    {count : Nat}
    (octets : Vector UInt8 count) :
    (Reader.octets count).Parses octets.toList octets.toList := by
  have parses := octets_parses octets.toList
  rwa [Vector.length_toList] at parses

theorem number_parses
    {width number : Nat}
    (fits : number < 256 ^ width) :
    (Reader.number width).Parses (bigEndianOctets width number) number := by
  intro window behind shape
  have inside : width ≤ window.remaining := by
    simp [Window.remaining, shape]
  have front : window.rest.take width = bigEndianOctets width number := by
    rw [shape]
    exact List.take_left' (bigEndianOctets_length width number)
  rw [Reader.number, ofRead, Window.number_eq, if_pos inside, front,
    bigEndian_bigEndianOctets fits, bigEndianOctets_length]
  rfl

theorem rest_exhausts
    (octets : List UInt8) :
    Reader.rest.Exhausts octets octets := by
  rintro window rfl
  rfl

/-- The octets of an inner window, which knows where they stand. -/
theorem inner_of_append
    {window : Window}
    {behind : List UInt8}
    (shape : window.rest = octets ++ behind) :
    Reader.inner octets.length window =
      .ok (.ofOctets octets window.position, window.advance octets.length) := by
  have fits : octets.length ≤ window.remaining := by
    simp [Window.remaining, shape]
  have front : window.rest.take octets.length = octets := by
    rw [shape, List.take_left]
  rw [Reader.inner, ofRead, Window.inner_eq, if_pos fits, front]
  rfl

/-- A reader that is applied several times takes one item after the other. -/
theorem times_parses
    {Item : Type}
    {encode : Item → List UInt8}
    {make : Item → α}
    {items : List Item}
    (parses : ∀ item ∈ items, reader.Parses (encode item) (make item)) :
    (reader.times items.length).Parses (items.flatMap encode) (items.map make) := by
  induction items with
  | nil =>
      exact pure_parses []
  | cons item items inductionHypothesis =>
      rw [List.forall_mem_cons] at parses
      rw [List.length_cons, List.flatMap_cons, List.map_cons, Reader.times]
      exact parses.1.bind ((inductionHypothesis parses.2).returning _)

/-! ## Readers of what may be missing -/

theorem ifMore_exhausts_nil
    (reader : Reader α) :
    (Reader.ifMore reader).Exhausts [] none := by
  intro window shape
  rw [Window.exhaust_of_rest_nil shape, Reader.ifMore,
    bind_eq_of_ok (hasMore_eq window), Window.isEmpty, shape]
  rfl

theorem Parses.ifMore
    (parses : reader.Parses octets value)
    (more : octets ≠ []) :
    (Reader.ifMore reader).Parses octets (some value) := by
  intro window behind shape
  have notEmpty : window.isEmpty = false := by
    rw [Window.isEmpty, shape, List.isEmpty_eq_false_iff]
    exact List.append_ne_nil_of_left_ne_nil more behind
  rw [Reader.ifMore, bind_eq_of_ok (hasMore_eq window), notEmpty]
  exact parses.returning some window behind shape

theorem Exhausts.ifMore
    (exhausts : reader.Exhausts octets value)
    (more : octets ≠ []) :
    (Reader.ifMore reader).Exhausts octets (some value) := by
  intro window shape
  have notEmpty : window.isEmpty = false := by
    rwa [Window.isEmpty, shape, List.isEmpty_eq_false_iff]
  rw [Reader.ifMore, bind_eq_of_ok (hasMore_eq window), notEmpty]
  exact exhausts.returning some window shape

end Reader

/-! ## Values behind their length -/

/-- A value behind its length in one octet. -/
def sizedOctets (value : List UInt8) : List UInt8 :=
  bigEndianOctets 1 value.length ++ value

theorem sizedOctets_ne_nil
    (value : List UInt8) :
    sizedOctets value ≠ [] :=
  List.cons_ne_nil _ _

/-! ## Runs of records -/

section Records

variable {Item α : Type} {record : Reader α} {encode : Item → List UInt8} {make : Item → α}
  {items : List Item}

/-- What is made of records one behind the other, the first of them at a position. -/
def placedRecords
    (encode : Item → List UInt8)
    (place : Nat → Item → α) :
    Nat → List Item → List α
  | _, [] =>
      []
  | position, item :: items =>
      place position item :: placedRecords encode place (position + (encode item).length) items

@[simp] theorem placedRecords_length
    (encode : Item → List UInt8)
    (place : Nat → Item → α)
    (position : Nat)
    (items : List Item) :
    (placedRecords encode place position items).length = items.length := by
  induction items generalizing position with
  | nil =>
      rfl
  | cons item items inductionHypothesis =>
      rw [placedRecords, List.length_cons, inductionHypothesis, List.length_cons]

/-- A record stands behind the octets of those in front of it. -/
theorem placedRecords_getElem?
    (encode : Item → List UInt8)
    (place : Nat → Item → α)
    (position : Nat)
    (items : List Item)
    (index : Nat) :
    (placedRecords encode place position items)[index]? =
      items[index]?.map (place (position + ((items.take index).flatMap encode).length)) := by
  induction items generalizing position index with
  | nil =>
      rfl
  | cons item items inductionHypothesis =>
      cases index with
      | zero =>
          rfl
      | succ index =>
          rw [placedRecords, List.getElem?_cons_succ, inductionHypothesis, List.getElem?_cons_succ,
            List.take_succ_cons, List.flatMap_cons, List.length_append, Nat.add_assoc]

/-- What does not depend on the place is made of each record alone. -/
theorem placedRecords_const
    (encode : Item → List UInt8)
    (make : Item → α)
    (position : Nat)
    (items : List Item) :
    placedRecords encode (fun _ => make) position items = items.map make := by
  induction items generalizing position with
  | nil =>
      rfl
  | cons item items inductionHypothesis =>
      rw [placedRecords, inductionHypothesis, List.map_cons]

/-- Records that are read where they stand come first, and the run goes on behind them. -/
theorem Window.run_placed
    (place : Nat → Item → α)
    (reads : ∀ item ∈ items, ∀ (window : Window) (behind : List UInt8),
      window.rest = encode item ++ behind →
        record window = .ok (place window.position item, window.advance (encode item).length))
    (takesOctets : ∀ item ∈ items, encode item ≠ [])
    (more : Nat)
    {window : Window}
    {behind : List UInt8}
    (shape : window.rest = items.flatMap encode ++ behind) :
    window.run record (items.length + more) =
      let others := (window.advance (items.flatMap encode).length).run record more
      { others with
        records := placedRecords encode place window.position items ++ others.records } := by
  induction items generalizing window with
  | nil =>
      simp [placedRecords]
  | cons item items inductionHypothesis =>
      rw [List.forall_mem_cons] at reads takesOctets
      rw [List.flatMap_cons, List.append_assoc] at shape
      have notEmpty : window.isEmpty = false := by
        rw [Window.isEmpty, shape, List.isEmpty_eq_false_iff]
        exact List.append_ne_nil_of_left_ne_nil takesOctets.1 _
      have after_rest :
          (window.advance (encode item).length).rest = items.flatMap encode ++ behind :=
        Window.rest_behind shape
      have step : (item :: items).length + more = items.length + more + 1 := by
        rw [List.length_cons]
        omega
      rw [step, Window.run, notEmpty, reads.1 window _ shape]
      simp only [Bool.false_eq_true, if_false]
      rw [inductionHypothesis reads.2 takesOctets.2 after_rest, Window.advance_advance,
        Window.advance_position, List.flatMap_cons, List.length_append]
      rfl

/-- Records that are parsed come first, and the run goes on behind them. -/
theorem Window.run_append
    (parses : ∀ item ∈ items, record.Parses (encode item) (make item))
    (takesOctets : ∀ item ∈ items, encode item ≠ [])
    (more : Nat)
    {window : Window}
    {behind : List UInt8}
    (shape : window.rest = items.flatMap encode ++ behind) :
    window.run record (items.length + more) =
      let others := (window.advance (items.flatMap encode).length).run record more
      { others with records := items.map make ++ others.records } := by
  have placed := Window.run_placed (fun _ => make) parses takesOctets more shape
  rwa [placedRecords_const] at placed

/-- There are at most as many records as octets. -/
theorem length_le_of_takesOctets
    (takesOctets : ∀ item ∈ items, encode item ≠ []) :
    items.length ≤ (items.flatMap encode).length := by
  induction items with
  | nil =>
      exact Nat.le_refl 0
  | cons item items inductionHypothesis =>
      rw [List.forall_mem_cons] at takesOctets
      have least := List.length_pos_iff.mpr takesOctets.1
      have others := inductionHypothesis takesOctets.2
      rw [List.flatMap_cons, List.length_append, List.length_cons]
      omega

/-- A member of a list is written among the others. -/
theorem length_le_of_mem_flatMap
    (encode : Item → List UInt8)
    {item : Item}
    (member : item ∈ items) :
    (encode item).length ≤ (items.flatMap encode).length := by
  obtain ⟨before, behind, rfl⟩ := List.mem_iff_append.mp member
  rw [List.flatMap_append, List.flatMap_cons, List.length_append, List.length_append]
  omega

/-- Without octets there are no records. -/
theorem Window.run_of_rest_nil
    {window : Window}
    (empty : window.rest = [])
    (record : Reader α)
    (limit : Nat) :
    window.run record limit = ⟨[], window, none⟩ := by
  cases limit with
  | zero =>
      rfl
  | succ limit =>
      rw [Window.run, Window.isEmpty, empty, List.isEmpty_nil, if_pos rfl]

/-- A run of records that fill a window keeps all of them. -/
theorem Window.runAll_of_complete
    (parses : ∀ item ∈ items, record.Parses (encode item) (make item))
    (takesOctets : ∀ item ∈ items, encode item ≠ [])
    {window : Window}
    (shape : window.rest = items.flatMap encode) :
    window.runAll record = ⟨items.map make, window.exhaust, none⟩ := by
  obtain ⟨more, remaining_eq⟩ : ∃ more, window.remaining = items.length + more := by
    rw [Window.remaining, shape]
    exact Nat.exists_eq_add_of_le (length_le_of_takesOctets takesOctets)
  have length_eq : (items.flatMap encode).length = window.remaining := by
    rw [Window.remaining, shape]
  have exhausted : window.exhaust.rest = [] := by
    rw [Window.exhaust, Window.advance_rest, Window.remaining, List.drop_length]
  rw [Window.runAll, remaining_eq,
    Window.run_append parses takesOctets more (by rw [shape, List.append_nil]), length_eq,
    ← Window.exhaust, Window.run_of_rest_nil exhausted]
  simp

theorem Reader.every_exhausts
    (parses : ∀ item ∈ items, record.Parses (encode item) (make item))
    (takesOctets : ∀ item ∈ items, encode item ≠ []) :
    (Reader.every record).Exhausts (items.flatMap encode) (items.map make) := by
  intro window shape
  rw [Reader.every, Window.runAll_of_complete parses takesOctets shape]

end Records

/-! ## Decoders -/

/-- The decoder makes the value of the octets, wherever they stand, and reports nothing. -/
def OctetDecoder.Reads (decode : OctetDecoder) (octets : List UInt8) (value : Value) : Prop :=
  ∀ (scope : Scope) (base : Nat),
    decode scope (.ofOctets octets base) =
      ⟨.ok (value, (Window.ofOctets octets base).exhaust), [], scope.containerType⟩

theorem Reader.Exhausts.decoder_reads
    {reader : Reader Value}
    {octets : List UInt8}
    {value : Value}
    (exhausts : reader.Exhausts octets value) :
    OctetDecoder.Reads reader.decoder octets value := by
  intro scope base
  rw [Reader.decoder, exhausts _ (Window.ofOctets_rest octets base)]

theorem Reader.Exhausts.reporting_reads
    {reader : Reader (Value × List Diagnostic)}
    {octets : List UInt8}
    {value : Value}
    (exhausts : reader.Exhausts octets (value, [])) :
    OctetDecoder.Reads reader.reporting octets value := by
  intro scope base
  rw [Reader.reporting, exhausts _ (Window.ofOctets_rest octets base)]

end LteNas
