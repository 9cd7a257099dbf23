import LteNas.Proofs.Element.Lenient

namespace LteNas

/-!
# Records and a front of one

Octets that only lengths divide cannot contradict a record: they are whole records
and a front of a further one, which may be empty.  A strict list is read exactly if
the front is empty, and in one way only; a lenient list reports the front.
-/

/-- The octets are a front of whole ones, of which at least one is missing. -/
structure IsProperFront (octets whole : List UInt8) : Prop where
  isFront : octets <+: whole
  isProper : octets ≠ whole

namespace IsProperFront

variable {octets whole : List UInt8}

theorem nil
    (more : whole ≠ []) :
    IsProperFront [] whole :=
  ⟨List.nil_prefix, more.symm⟩

theorem eq_take
    (front : IsProperFront octets whole) :
    octets = whole.take octets.length :=
  List.prefix_iff_eq_take.mp front.isFront

theorem length_lt
    (front : IsProperFront octets whole) :
    octets.length < whole.length := by
  refine Nat.lt_of_le_of_ne front.isFront.length_le fun same => front.isProper ?_
  exact front.isFront.eq_of_length same

/-- Further octets in front of both are a front of both. -/
theorem append
    (front : IsProperFront octets whole)
    (before : List UInt8) :
    IsProperFront (before ++ octets) (before ++ whole) where
  isFront := (List.prefix_append_right_inj before).mpr front.isFront
  isProper := fun same => front.isProper (List.append_cancel_left same)

/-- A front of a value behind its length has the whole length, and fewer octets behind it. -/
theorem exists_of_sized
    {value tail : List UInt8}
    (front : IsProperFront tail (sizedOctets value))
    (started : tail ≠ []) :
    ∃ others, tail = bigEndianOctets 1 value.length ++ others ∧ others.length < value.length := by
  have length_lt := front.length_lt
  obtain ⟨first, others, rfl⟩ := List.exists_cons_of_ne_nil started
  obtain ⟨missing, whole⟩ := front.isFront
  obtain ⟨first_eq, -⟩ := List.cons.inj whole
  refine ⟨others, ?_, ?_⟩
  · rw [first_eq]
    rfl
  · rw [sizedOctets, List.length_append, bigEndianOctets_length, List.length_cons] at length_lt
    omega

end IsProperFront

/-- The octets are those of good items, one behind the other. -/
structure IsTiledBy
    {Item : Type}
    (good : Item → Prop)
    (encode : Item → List UInt8)
    (items : List Item)
    (octets : List UInt8) :
    Prop where
  areGood : ∀ item ∈ items, good item
  octets_eq : octets = items.flatMap encode

/-- The octets are those of good items, and of a front of a further one. -/
structure EndsInside
    {Item : Type}
    (good : Item → Prop)
    (encode : Item → List UInt8)
    (items : List Item)
    (last : Item)
    (tail octets : List UInt8) :
    Prop where
  areGood : ∀ item ∈ items, good item
  lastIsGood : good last
  started : tail ≠ []
  front : IsProperFront tail (encode last)
  octets_eq : octets = items.flatMap encode ++ tail

/-- Octets that begin with no good item are a front of one. -/
def IsFramed
    {Item : Type}
    (good : Item → Prop)
    (encode : Item → List UInt8) :
    Prop :=
  ∀ octets, BeginsWithNone good encode octets →
    ∃ item, good item ∧ IsProperFront octets (encode item)

section Framing

variable {Item : Type} {good : Item → Prop} {encode : Item → List UInt8}

/-- Any octets are those of good items, or end inside one. -/
theorem IsFramed.isTiledBy_or_endsInside
    (framed : IsFramed good encode)
    (takesOctets : ∀ item, good item → encode item ≠ [])
    (octets : List UInt8) :
    (∃ items, IsTiledBy good encode items octets) ∨
      ∃ items last tail, EndsInside good encode items last tail octets := by
  obtain ⟨items, tail, shape, areGood, none⟩ := exists_itemRun_all takesOctets octets
  by_cases empty : tail = []
  · rw [empty, List.append_nil] at shape
    exact .inl ⟨items, areGood, shape⟩
  · obtain ⟨last, lastIsGood, front⟩ := framed tail none
    exact .inr ⟨items, last, tail, areGood, lastIsGood, empty, front, shape⟩

/-- Octets that are no value behind its length are a front of one. -/
theorem sizedOctets_isFramed :
    IsFramed (fun value => value.length < 256) sizedOctets := by
  intro octets none
  cases octets with
  | nil =>
      exact ⟨[], by decide, .nil (sizedOctets_ne_nil [])⟩
  | cons length octets =>
      have length_lt : length.toNat < 256 := length.toNat_lt
      have written (value : List UInt8) (length_eq : value.length = length.toNat) :
          sizedOctets value = length :: value := by
        rw [sizedOctets, length_eq]
        simp [bigEndianOctets]
      by_cases enough : length.toNat ≤ octets.length
      · have front : sizedOctets (octets.take length.toNat) <+: length :: octets := by
          rw [written _ (List.length_take_of_le enough), List.cons_prefix_cons]
          exact ⟨rfl, List.take_prefix _ _⟩
        refine absurd front (none _ ?_)
        show (octets.take length.toNat).length < 256
        rwa [List.length_take_of_le enough]
      · let value := octets ++ List.replicate (length.toNat - octets.length) 0
        have value_length : value.length = length.toNat := by
          simp only [value, List.length_append, List.length_replicate]
          omega
        have fits : value.length < 256 := by
          rwa [value_length]
        refine ⟨value, fits, ?_, ?_⟩
        · rw [written value value_length, List.cons_prefix_cons]
          exact ⟨rfl, List.prefix_append _ _⟩
        · rw [written value value_length, Ne, List.cons.injEq]
          rintro ⟨-, same⟩
          have := congrArg List.length same
          omega

end Framing

/-! ## Readers that fail -/

namespace Reader

variable {α β : Type} {reader : Reader α} {next : α → Reader β} {octets others tail : List UInt8}
  {parts : List (List UInt8)} {value : α} {fault : Fault}

/-- The reader fails where a window ends with the octets. -/
def Fails (reader : Reader α) (octets : List UInt8) (fault : Fault) : Prop :=
  ∀ window : Window,
    window.rest = octets →
      reader window = .error fault

theorem Fails.bind
    (fails : reader.Fails octets fault) :
    (reader >>= next).Fails octets fault :=
  fun window shape => bind_eq_of_error (fails window shape)

/-- Octets of another number than expected are not read. -/
theorem expectExactly_fails
    {length : Nat}
    (differs : octets.length ≠ length) :
    (Reader.expectExactly length).Fails octets (.lengthMismatch length octets.length) := by
  intro window shape
  have actual : window.remaining = octets.length := by
    rw [Window.remaining, shape]
  rw [Reader.expectExactly, bind_eq_of_ok (remaining_eq window), actual, if_pos differs]
  rfl

theorem Parses.bind_fails
    (front : reader.Parses octets value)
    (back : (next value).Fails others fault) :
    (reader >>= next).Fails (octets ++ others) fault := by
  intro window shape
  have after_rest : (window.advance octets.length).rest = others :=
    Window.rest_behind shape
  rw [bind_eq_of_ok (front window _ shape), back _ after_rest]

/-- Where octets end inside parts that are read one by one, the part in which they do is missing. -/
theorem ReadsParts.fails_of_front
    (reads : reader.ReadsParts parts value)
    (front : IsProperFront tail parts.flatten) :
    reader.Fails tail (.tooShort (shortageWithin parts tail.length)) :=
  fun _ shape => reads.fails front.length_lt (shape.trans front.eq_take)

/-- A strict list fails with the fault of the record in which it ends. -/
theorem every_fails
    {Item : Type}
    {record : Reader α}
    {good : Item → Prop}
    {encode : Item → List UInt8}
    {make : Item → α}
    {items : List Item}
    {last : Item}
    (parses : ∀ item, good item → record.Parses (encode item) (make item))
    (takesOctets : ∀ item, good item → encode item ≠ [])
    (cutOff : EndsInside good encode items last tail octets)
    (fails : record.Fails tail fault) :
    (every record).Fails octets fault := by
  intro window shape
  rw [cutOff.octets_eq] at shape
  rw [every, Window.runAll_of_fault
    (fun item member => parses item (cutOff.areGood item member))
    (fun item member => takesOctets item (cutOff.areGood item member))
    shape cutOff.started fails]

/-- A lenient list keeps the records in front of its tail, and reports the tail if there is one. -/
theorem completeOnes_keeps
    {Item : Type}
    {record : Reader α}
    {encode : Item → List UInt8}
    {make : Item → α}
    {items : List Item}
    {shortage : Shortage}
    {window : Window}
    (parses : ∀ item ∈ items, record.Parses (encode item) (make item))
    (takesOctets : ∀ item ∈ items, encode item ≠ [])
    (fails : record.Fails tail (.tooShort shortage))
    (label : String)
    (shape : window.rest = items.flatMap encode ++ tail) :
    completeOnes label record window =
      .ok
        ((items.map make, if tail = [] then [] else [window.cutOff label tail]),
          window.exhaust) := by
  rw [completeOnes, upTo]
  split
  case isTrue empty =>
    rw [empty, List.append_nil] at shape
    have found := Window.runAll_of_complete parses takesOctets shape
    rw [Window.runAll] at found
    rw [found]
    rfl
  case isFalse more =>
    have found := Window.runAll_of_fault parses takesOctets shape more fails
    rw [Window.runAll] at found
    obtain ⟨complaint_eq, after_eq⟩ := RecordRun.of_cut shape (items.map make) shortage label
    rw [found]
    dsimp only
    rw [complaint_eq, after_eq]

end Reader

/-- The decoder makes no value of the octets, wherever they stand, and reports nothing. -/
def OctetDecoder.Refuses (decode : OctetDecoder) (octets : List UInt8) (fault : Fault) : Prop :=
  ∀ (scope : Scope) (base : Nat),
    decode scope (.ofOctets octets base) = ⟨.error fault, [], scope.containerType⟩

theorem Reader.Fails.decoder_refuses
    {reader : Reader Value}
    {octets : List UInt8}
    {fault : Fault}
    (fails : reader.Fails octets fault) :
    OctetDecoder.Refuses reader.decoder octets fault := by
  intro scope base
  rw [Reader.decoder, fails _ (Window.ofOctets_rest octets base)]

namespace OctetDecoder

variable {decode : OctetDecoder} {octets : List UInt8} {fault : Fault} {value : Value}

theorem Refuses.not_ok
    (refuses : decode.Refuses octets fault)
    (scope : Scope)
    (base : Nat) :
    ¬ ∃ found, (decode scope (.ofOctets octets base)).outcome = .ok found := by
  rintro ⟨found, accepted⟩
  rw [refuses scope base] at accepted
  cases accepted

/-- Octets are refused for one fault only. -/
theorem Refuses.fault_eq
    {other : Fault}
    {scope : Scope}
    {base : Nat}
    (refuses : decode.Refuses octets fault)
    (failed : (decode scope (.ofOctets octets base)).outcome = .error other) :
    fault = other := by
  rw [refuses scope base] at failed
  injection failed

theorem Reads.ok
    (reads : decode.Reads octets value)
    (scope : Scope)
    (base : Nat) :
    ∃ found, (decode scope (.ofOctets octets base)).outcome = .ok found :=
  ⟨_, congrArg Reading.outcome (reads scope base)⟩

end OctetDecoder

/-! ## Tilings -/

section Tilings

variable {Item α : Type} {record : Reader α} {good : Item → Prop} {encode : Item → List UInt8}
  {make : Item → α} {items others : List Item} {octets : List UInt8}

/-- Octets are those of items in one way only, if different items are read as different values. -/
theorem IsTiledBy.unique
    (parses : ∀ item, good item → record.Parses (encode item) (make item))
    (takesOctets : ∀ item, good item → encode item ≠ [])
    (injective : Function.Injective make)
    (tiled : IsTiledBy good encode items octets)
    (alsoTiled : IsTiledBy good encode others octets) :
    others = items := by
  have read {items : List Item} (tiled : IsTiledBy good encode items octets) :
      ((Window.ofOctets octets 0).runAll record).records = items.map make := by
    rw [Window.runAll_of_complete
      (fun item member => parses item (tiled.areGood item member))
      (fun item member => takesOctets item (tiled.areGood item member)) tiled.octets_eq]
  exact (List.map_inj_right fun _ _ same => injective same).mp
    ((read alsoTiled).symm.trans (read tiled))

end Tilings

end LteNas
