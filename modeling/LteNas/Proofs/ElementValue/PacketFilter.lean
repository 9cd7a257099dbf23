import LteNas.ElementValue.TrafficFlow
import LteNas.Proofs.Element.Lenient
import LteNas.Proofs.Octets.Nibbles

namespace LteNas

/-!
# Packet filters

A packet filter is complete when its octets are those of components one behind the
other, and possibly of one of unknown kind, which ends the filter since its length
is unknown.  Exactly the complete filters are read, each with its components.
-/

open ElementValue

/-! ## Components -/

/-- The end of a flow that a component is about. -/
inductive FlowEnd where
  | remote
  | near

/-- A component of known kind and what it compares. -/
inductive FilterComponent where
  | dotted (side : FlowEnd) (address mask : Vector UInt8 4)
  | masked (side : FlowEnd) (address mask : Vector UInt8 16)
  | leading (side : FlowEnd) (address : Vector UInt8 16) (length : UInt8)
  | protocol (number : UInt8)
  | port (side : FlowEnd) (number : UInt16)
  | ports (side : FlowEnd) (low high : UInt16)
  | securityIndex (index : UInt32)
  | trafficClass (value mask : UInt8)
  /-- The bits in front of a flow label mean nothing. -/
  | flowLabel (spare : Fin 16) (label : Fin (2 ^ 20))

namespace FilterComponent

def code : FilterComponent → Nat
  | .dotted .remote _ _ => 0x10
  | .dotted .near _ _ => 0x11
  | .masked .remote _ _ => 0x20
  | .masked .near _ _ => 0x22
  | .leading .remote _ _ => 0x21
  | .leading .near _ _ => 0x23
  | .protocol _ => 0x30
  | .port .near _ => 0x40
  | .port .remote _ => 0x50
  | .ports .near _ _ => 0x41
  | .ports .remote _ _ => 0x51
  | .securityIndex _ => 0x60
  | .trafficClass _ _ => 0x70
  | .flowLabel _ _ => 0x80

def name : FilterComponent → String
  | .dotted .remote _ _ => "IPv4 remote address type"
  | .dotted .near _ _ => "IPv4 local address type"
  | .masked .remote _ _ => "IPv6 remote address type"
  | .masked .near _ _ => "IPv6 local address type"
  | .leading .remote _ _ => "IPv6 remote address/prefix length type"
  | .leading .near _ _ => "IPv6 local address/prefix length type"
  | .protocol _ => "Protocol identifier/Next header type"
  | .port .near _ => "Single local port type"
  | .port .remote _ => "Single remote port type"
  | .ports .near _ _ => "Local port range type"
  | .ports .remote _ _ => "Remote port range type"
  | .securityIndex _ => "Security parameter index type"
  | .trafficClass _ _ => "Type of service/Traffic class type"
  | .flowLabel _ _ => "Flow label type"

/-- The octets behind the code. -/
def body : FilterComponent → List UInt8
  | .dotted _ address mask => address.toList ++ mask.toList
  | .masked _ address mask => address.toList ++ mask.toList
  | .leading _ address length => address.toList ++ bigEndianOctets 1 length.toNat
  | .protocol number => bigEndianOctets 1 number.toNat
  | .port _ number => bigEndianOctets 2 number.toNat
  | .ports _ low high => bigEndianOctets 2 low.toNat ++ bigEndianOctets 2 high.toNat
  | .securityIndex index => bigEndianOctets 4 index.toNat
  | .trafficClass value mask => [value] ++ [mask]
  | .flowLabel spare label => bigEndianOctets 3 (spare * 2 ^ 20 + label)

def octets (component : FilterComponent) : List UInt8 :=
  bigEndianOctets 1 component.code ++ component.body

/-- What is shown of the content of a component. -/
def shown : FilterComponent → Value
  | .dotted _ address mask =>
      .text s!"{Address.dotted address.toList}/{Address.dotted mask.toList}"
  | .masked _ address mask =>
      .text s!"{Address.ipv6 address.toList}/{Address.ipv6 mask.toList}"
  | .leading _ address length =>
      .text s!"{Address.ipv6 address.toList}/{length.toNat}"
  | .protocol number => .number number.toNat
  | .port _ number => .number number.toNat
  | .ports _ low high => .text s!"{low.toNat}-{high.toNat}"
  | .securityIndex index => .number index.toNat
  | .trafficClass value mask => .text s!"{hexadecimalOctet value}/{hexadecimalOctet mask}"
  | .flowLabel _ label => .number label

/-- What is shown of a component. -/
def value (component : FilterComponent) : Value :=
  componentValue component.code component.name component.shown

/-- How the content of a component is read. -/
def content : FilterComponent → FilterContent
  | .dotted _ _ _ => .dotted
  | .masked _ _ _ => .masked
  | .leading _ _ _ => .leading
  | .protocol _ => .number 1
  | .port _ _ => .number 2
  | .ports _ _ _ => .range
  | .securityIndex _ => .number 4
  | .trafficClass _ _ => .trafficClass
  | .flowLabel _ _ => .flowLabel

theorem octets_ne_nil
    (component : FilterComponent) :
    component.octets ≠ [] :=
  List.cons_ne_nil _ _

theorem code_lt
    (component : FilterComponent) :
    component.code < 256 ^ 1 := by
  cases component with
  | dotted side | masked side | leading side | port side | ports side =>
      cases side <;> simp [code]
  | protocol | securityIndex | trafficClass | flowLabel =>
      simp [code]

theorem lookup_code
    (component : FilterComponent) :
    filterKinds.lookup component.code = some ⟨component.name, component.content⟩ := by
  cases component with
  | dotted side | masked side | leading side | port side | ports side =>
      cases side <;> rfl
  | protocol | securityIndex | trafficClass | flowLabel =>
      rfl

end FilterComponent

namespace ElementValue

open Reader

/-- The content of a component is read back. -/
theorem readContent_parses
    (component : FilterComponent) :
    component.content.read.Parses component.body component.shown := by
  cases component with
  | dotted side address mask =>
      apply (vector_parses address).bind
      exact (vector_parses mask).returning _
  | masked side address mask =>
      apply (vector_parses address).bind
      exact (vector_parses mask).returning _
  | leading side address length =>
      apply (vector_parses address).bind
      exact (number_parses length.toNat_lt).returning _
  | protocol number =>
      exact (number_parses number.toNat_lt).returning _
  | port side number =>
      exact (number_parses number.toNat_lt).returning _
  | ports side low high =>
      apply (number_parses low.toNat_lt).bind
      exact (number_parses high.toNat_lt).returning _
  | securityIndex index =>
      exact (number_parses index.toNat_lt).returning _
  | trafficClass value mask =>
      apply (octet_parses value).bind
      exact (octet_parses mask).returning _
  | flowLabel spare label =>
      have spare_lt := spare.isLt
      have label_lt := label.isLt
      have small : spare.val * 2 ^ 20 + label.val < 256 ^ 3 := by
        omega
      have label_eq : (spare.val * 2 ^ 20 + label.val) % Nat.pow 2 20 = label.val := by
        show (spare.val * 2 ^ 20 + label.val) % 2 ^ 20 = label.val
        omega
      have parses :=
        (number_parses small).returning fun label => Value.number (label % Nat.pow 2 20)
      rwa [label_eq] at parses

theorem readComponent_parses
    (component : FilterComponent) :
    readComponent.Parses component.octets component.value := by
  apply (number_parses component.code_lt).bind
  rw [component.lookup_code]
  exact (readContent_parses component).returning _

/-! ## Finding components -/

section Found

variable {window : Window} {outcome : Value × Window}

/-- An address and its mask are as many octets each. -/
theorem found_vectors
    {count : Nat}
    {make : List UInt8 → List UInt8 → Value}
    (read :
      (do
        let address ← Reader.octets count
        let mask ← Reader.octets count
        return make address mask : Reader Value) window = .ok outcome) :
    ∃ address mask : Vector UInt8 count, address.toList ++ mask.toList <+: window.rest := by
  obtain ⟨_, after, first, read⟩ := bind_eq_ok_iff.mp read
  obtain ⟨_, last, second, -⟩ := bind_eq_ok_iff.mp read
  obtain ⟨address, shape⟩ := vector_of_read first
  obtain ⟨mask, after_shape⟩ := vector_of_read second
  exact ⟨address, mask, last.rest, by rw [shape, after_shape, List.append_assoc]⟩

theorem found_leading
    (read : FilterContent.leading.read window = .ok outcome) :
    ∃ (address : Vector UInt8 16) (length : UInt8),
      address.toList ++ bigEndianOctets 1 length.toNat <+: window.rest := by
  obtain ⟨_, after, first, read⟩ := bind_eq_ok_iff.mp read
  obtain ⟨length, last, second, -⟩ := bind_eq_ok_iff.mp read
  obtain ⟨address, shape⟩ := vector_of_read first
  obtain ⟨small, after_shape⟩ := number_eq_ok second
  have length_eq : (UInt8.ofNat length).toNat = length :=
    UInt8.toNat_ofNat_of_lt' small
  refine ⟨address, UInt8.ofNat length, last.rest, ?_⟩
  rw [shape, after_shape, length_eq, List.append_assoc]

theorem found_number
    {width : Nat}
    (read : (FilterContent.number width).read window = .ok outcome) :
    ∃ number < 256 ^ width, bigEndianOctets width number <+: window.rest := by
  obtain ⟨number, after, first, -⟩ := bind_eq_ok_iff.mp read
  obtain ⟨small, shape⟩ := number_eq_ok first
  exact ⟨number, small, after.rest, shape.symm⟩

theorem found_range
    (read : FilterContent.range.read window = .ok outcome) :
    ∃ low high : UInt16,
      bigEndianOctets 2 low.toNat ++ bigEndianOctets 2 high.toNat <+: window.rest := by
  obtain ⟨low, after, first, read⟩ := bind_eq_ok_iff.mp read
  obtain ⟨high, last, second, -⟩ := bind_eq_ok_iff.mp read
  obtain ⟨lowSmall, shape⟩ := number_eq_ok first
  obtain ⟨highSmall, after_shape⟩ := number_eq_ok second
  have low_eq : (UInt16.ofNat low).toNat = low :=
    UInt16.toNat_ofNat_of_lt' lowSmall
  have high_eq : (UInt16.ofNat high).toNat = high :=
    UInt16.toNat_ofNat_of_lt' highSmall
  refine ⟨UInt16.ofNat low, UInt16.ofNat high, last.rest, ?_⟩
  rw [shape, after_shape, low_eq, high_eq, List.append_assoc]

theorem found_trafficClass
    (read : FilterContent.trafficClass.read window = .ok outcome) :
    ∃ value mask : UInt8, [value] ++ [mask] <+: window.rest := by
  obtain ⟨value, after, first, read⟩ := bind_eq_ok_iff.mp read
  obtain ⟨mask, last, second, -⟩ := bind_eq_ok_iff.mp read
  exact ⟨value, mask, last.rest, by rw [octet_eq_ok first, octet_eq_ok second]; rfl⟩

theorem found_flowLabel
    (read : FilterContent.flowLabel.read window = .ok outcome) :
    ∃ (spare : Fin 16) (label : Fin (2 ^ 20)),
      bigEndianOctets 3 (spare.val * 2 ^ 20 + label.val) <+: window.rest := by
  obtain ⟨number, after, first, -⟩ := bind_eq_ok_iff.mp read
  obtain ⟨small, shape⟩ := number_eq_ok first
  have number_eq : number / 2 ^ 20 * 2 ^ 20 + number % 2 ^ 20 = number := by
    omega
  refine ⟨⟨number / 2 ^ 20, by omega⟩, ⟨number % 2 ^ 20, by omega⟩, after.rest, ?_⟩
  rw [number_eq, shape]

/-- Where the content of a component is read, it is that of a component of the kind. -/
theorem readContent_found
    {code : Nat}
    {kind : FilterKind}
    (known : (code, kind) ∈ filterKinds)
    (read : kind.content.read window = .ok outcome) :
    ∃ component : FilterComponent, component.code = code ∧ component.body <+: window.rest := by
  simp only [filterKinds, List.mem_cons, List.not_mem_nil, or_false, Prod.mk.injEq] at known
  rcases known with
    ⟨rfl, rfl⟩ | ⟨rfl, rfl⟩ | ⟨rfl, rfl⟩ | ⟨rfl, rfl⟩ | ⟨rfl, rfl⟩ | ⟨rfl, rfl⟩ | ⟨rfl, rfl⟩ |
    ⟨rfl, rfl⟩ | ⟨rfl, rfl⟩ | ⟨rfl, rfl⟩ | ⟨rfl, rfl⟩ | ⟨rfl, rfl⟩ | ⟨rfl, rfl⟩ | ⟨rfl, rfl⟩
  · obtain ⟨address, mask, front⟩ := found_vectors read
    exact ⟨.dotted .remote address mask, rfl, front⟩
  · obtain ⟨address, mask, front⟩ := found_vectors read
    exact ⟨.dotted .near address mask, rfl, front⟩
  · obtain ⟨address, mask, front⟩ := found_vectors read
    exact ⟨.masked .remote address mask, rfl, front⟩
  · obtain ⟨address, length, front⟩ := found_leading read
    exact ⟨.leading .remote address length, rfl, front⟩
  · obtain ⟨address, mask, front⟩ := found_vectors read
    exact ⟨.masked .near address mask, rfl, front⟩
  · obtain ⟨address, length, front⟩ := found_leading read
    exact ⟨.leading .near address length, rfl, front⟩
  · obtain ⟨number, small, front⟩ := found_number read
    refine ⟨.protocol (UInt8.ofNat number), rfl, ?_⟩
    rwa [FilterComponent.body, UInt8.toNat_ofNat_of_lt' small]
  · obtain ⟨number, small, front⟩ := found_number read
    refine ⟨.port .near (UInt16.ofNat number), rfl, ?_⟩
    rwa [FilterComponent.body, UInt16.toNat_ofNat_of_lt' small]
  · obtain ⟨low, high, front⟩ := found_range read
    exact ⟨.ports .near low high, rfl, front⟩
  · obtain ⟨number, small, front⟩ := found_number read
    refine ⟨.port .remote (UInt16.ofNat number), rfl, ?_⟩
    rwa [FilterComponent.body, UInt16.toNat_ofNat_of_lt' small]
  · obtain ⟨low, high, front⟩ := found_range read
    exact ⟨.ports .remote low high, rfl, front⟩
  · obtain ⟨number, small, front⟩ := found_number read
    refine ⟨.securityIndex (UInt32.ofNat number), rfl, ?_⟩
    rwa [FilterComponent.body, UInt32.toNat_ofNat_of_lt' small]
  · obtain ⟨value, mask, front⟩ := found_trafficClass read
    exact ⟨.trafficClass value mask, rfl, front⟩
  · obtain ⟨spare, label, front⟩ := found_flowLabel read
    exact ⟨.flowLabel spare label, rfl, front⟩

/-- A component that is read is of known kind and complete, or of unknown kind. -/
theorem readComponent_found
    (read : readComponent window = .ok outcome) :
    (∃ component : FilterComponent, component.octets <+: window.rest) ∨
      ∃ code contents,
        code < 256 ^ 1 ∧ filterKinds.lookup code = none ∧
          window.rest = bigEndianOctets 1 code ++ contents := by
  obtain ⟨code, after, first, read⟩ := bind_eq_ok_iff.mp read
  obtain ⟨small, shape⟩ := number_eq_ok first
  cases found : filterKinds.lookup code with
  | none =>
      exact .inr ⟨code, after.rest, small, found, shape⟩
  | some kind =>
      rw [found] at read
      obtain ⟨content, last, read, -⟩ := bind_eq_ok_iff.mp read
      obtain ⟨front, back, kinds_eq, -⟩ := List.lookup_eq_some_iff.mp found
      have known : (code, kind) ∈ filterKinds := by
        rw [kinds_eq]
        exact List.mem_append_right _ List.mem_cons_self
      obtain ⟨component, rfl, others, body_shape⟩ := readContent_found known read
      refine .inl ⟨component, others, ?_⟩
      rw [shape, ← body_shape, FilterComponent.octets, List.append_assoc]

end Found

theorem readContent_failsShort
    (content : FilterContent) :
    content.read.FailsShort := by
  cases content with
  | dotted | masked =>
      exact (ofRead_failsShort _).bind fun _ => (ofRead_failsShort _).returning _
  | leading | range | trafficClass =>
      exact (ofRead_failsShort _).bind fun _ => (ofRead_failsShort _).returning _
  | number | flowLabel =>
      exact (ofRead_failsShort _).returning _

theorem readComponent_failsShort :
    readComponent.FailsShort := by
  apply (ofRead_failsShort _).bind
  intro code
  split
  · exact (readContent_failsShort _).returning _
  · exact rest_failsShort.returning _

end ElementValue

/-! ## Contents of filters -/

/-- A component of unknown kind, which takes all octets behind its code. -/
structure UnknownComponent where
  code : Nat
  contents : List UInt8
  code_lt : code < 256 ^ 1
  isUnknown : filterKinds.lookup code = none

namespace UnknownComponent

def octets (component : UnknownComponent) : List UInt8 :=
  bigEndianOctets 1 component.code ++ component.contents

def value (component : UnknownComponent) : Value :=
  componentValue component.code "Unknown" (.octets component.contents)

theorem octets_ne_nil
    (component : UnknownComponent) :
    component.octets ≠ [] :=
  List.cons_ne_nil _ _

end UnknownComponent

/-- Components of known kind, and possibly one of unknown kind behind them. -/
structure FilterContents where
  components : List FilterComponent
  last : Option UnknownComponent

namespace FilterContents

def octets (contents : FilterContents) : List UInt8 :=
  contents.components.flatMap FilterComponent.octets ++
    (contents.last.map UnknownComponent.octets).getD []

/-- What is shown of the components. -/
def values (contents : FilterContents) : List Value :=
  contents.components.map FilterComponent.value ++
    (contents.last.map UnknownComponent.value).toList

end FilterContents

namespace ElementValue

open Reader

theorem readComponent_exhausts
    (component : UnknownComponent) :
    readComponent.Exhausts component.octets component.value := by
  apply (number_parses component.code_lt).bind_exhausts
  rw [component.isUnknown]
  exact (rest_exhausts component.contents).returning _

section Contents

variable {window : Window} {components : List FilterComponent} {behind : List UInt8}

theorem components_parse :
    ∀ component ∈ components, readComponent.Parses component.octets component.value :=
  fun component _ => readComponent_parses component

theorem components_takeOctets :
    ∀ component ∈ components, component.octets ≠ [] :=
  fun component _ => component.octets_ne_nil

/-- Components that fill a window are read in order. -/
theorem filterComponents_of_contents
    (contents : FilterContents)
    (shape : window.rest = contents.octets) :
    filterComponents window = .ok contents.values := by
  obtain ⟨components, last⟩ := contents
  rw [filterComponents, Reader.every]
  cases last with
  | none =>
      rw [FilterContents.octets, Option.map_none, Option.getD_none, List.append_nil] at shape
      rw [Window.runAll_of_complete components_parse components_takeOctets shape]
      exact congrArg Except.ok (List.append_nil _).symm
  | some unknown =>
      rw [FilterContents.octets, Option.map_some, Option.getD_some] at shape
      obtain ⟨limit, run⟩ :=
        Window.runAll_append components_parse components_takeOctets shape unknown.octets_ne_nil
      let after := window.advance (components.flatMap FilterComponent.octets).length
      have after_rest : after.rest = unknown.octets :=
        Window.rest_behind shape
      have notEmpty : after.isEmpty = false := by
        rw [Window.isEmpty, after_rest, List.isEmpty_eq_false_iff]
        exact unknown.octets_ne_nil
      have exhausted : after.exhaust.rest = [] :=
        List.drop_length
      rw [run, Window.run, notEmpty, readComponent_exhausts unknown _ after_rest]
      simp only [Bool.false_eq_true, if_false, Window.run_of_rest_nil exhausted]
      rfl

/-- Components are read where they fill a window, and nowhere else. -/
theorem filterComponents_found
    {values : List Value}
    (read : filterComponents window = .ok values) :
    ∃ contents : FilterContents, window.rest = contents.octets := by
  obtain ⟨components, behind, shape, -, none⟩ :=
    exists_itemRun_all (fun component (_ : True) => FilterComponent.octets_ne_nil component)
      window.rest
  by_cases empty : behind = []
  · exact ⟨⟨components, .none⟩, by rw [shape, empty]; rfl⟩
  · let after := window.advance (components.flatMap FilterComponent.octets).length
    have after_rest : after.rest = behind :=
      Window.rest_behind shape
    cases last : readComponent after with
    | ok outcome =>
        rcases readComponent_found last with
          ⟨component, front⟩ | ⟨code, contents, small, unknown, rest⟩
        · rw [after_rest] at front
          exact absurd front (none component trivial)
        · rw [after_rest] at rest
          exact ⟨⟨components, some ⟨code, contents, small, unknown⟩⟩, by rw [shape, rest]; rfl⟩
    | error fault =>
        rw [filterComponents, Reader.every,
          Window.runAll_of_fault_at components_parse components_takeOctets shape empty last] at read
        cases read

/-- Where components are not read, octets of one of them are missing. -/
theorem filterComponents_failsShort
    {fault : Fault}
    (failed : filterComponents window = .error fault) :
    ∃ shortage, fault = .tooShort shortage := by
  rw [filterComponents] at failed
  cases outcome : Reader.every readComponent window with
  | error reason =>
      rw [outcome] at failed
      cases failed
      exact readComponent_failsShort.every window _ outcome
  | ok found =>
      rw [outcome] at failed
      cases failed

end Contents

end ElementValue

/-! ## Filters -/

/-- A complete packet filter. -/
structure PacketFilter where
  /-- The bits in front of the direction, which mean nothing. -/
  spare : Fin 4
  direction : Fin 4
  identifier : Fin 16
  precedence : UInt8
  contents : FilterContents
  contents_lt : contents.octets.length < 256

namespace PacketFilter

def header (filter : PacketFilter) : UInt8 :=
  UInt8.ofNat (filter.spare * 64 + filter.direction * 16 + filter.identifier)

def octets (filter : PacketFilter) : List UInt8 :=
  [filter.header] ++
    (bigEndianOctets 1 filter.precedence.toNat ++ sizedOctets filter.contents.octets)

/-- What is shown of a packet filter. -/
def value (filter : PacketFilter) : Value :=
  .fields
    [ ⟨"Packet filter direction",
        codedBy filterDirections "Reserved" (UInt8.ofNat filter.direction)⟩,
      numberField "Packet filter identifier" filter.identifier,
      numberField "Packet filter evaluation precedence" filter.precedence.toNat,
      ⟨"Components", .list filter.contents.values⟩ ]

end PacketFilter

/-- A filter of a template: where filters are deleted, the identifier alone. -/
inductive FlowFilter where
  /-- The bits in front of the identifier mean nothing. -/
  | identifier (spare number : Fin 16)
  | packet (filter : PacketFilter)

namespace FlowFilter

/-- The operation of the template wants filters of this form. -/
def Suits (operation : UInt8) : FlowFilter → Prop
  | .identifier _ _ => operation = deleteFilters
  | .packet _ => operation ≠ deleteFilters

instance (operation : UInt8) : DecidablePred (Suits operation)
  | .identifier _ _ => inferInstanceAs (Decidable (operation = deleteFilters))
  | .packet _ => inferInstanceAs (Decidable (operation ≠ deleteFilters))

def octets : FlowFilter → List UInt8
  | .identifier spare number => [UInt8.ofNat (spare * 16 + number)]
  | .packet filter => filter.octets

/-- What is shown of a filter. -/
def value : FlowFilter → Value
  | .identifier _ number => .fields [numberField "Packet filter identifier" number]
  | .packet filter => filter.value

theorem octets_ne_nil
    (filter : FlowFilter) :
    filter.octets ≠ [] := by
  cases filter with
  | identifier spare number =>
      exact List.cons_ne_nil _ []
  | packet filter =>
      exact List.cons_ne_nil filter.header _

end FlowFilter

namespace ElementValue

open Reader

theorem filterHeader_tells :
    ∀ (spare direction : Fin 4) (identifier : Fin 16),
      let header := UInt8.ofNat (spare * 64 + direction * 16 + identifier)
      header >>> 4 &&& 0x03 = UInt8.ofNat direction ∧ (lowNibble header).toNat = identifier := by
  decide +kernel

theorem exists_filterHeader
    (octet : UInt8) :
    ∃ (spare direction : Fin 4) (identifier : Fin 16),
      UInt8.ofNat (spare * 64 + direction * 16 + identifier) = octet := by
  have small := octet.toNat_lt
  have number_eq :
      octet.toNat / 64 * 64 + octet.toNat / 16 % 4 * 16 + octet.toNat % 16 = octet.toNat := by
    omega
  refine ⟨⟨octet.toNat / 64, by omega⟩, ⟨octet.toNat / 16 % 4, by omega⟩,
    ⟨octet.toNat % 16, by omega⟩, ?_⟩
  rw [number_eq, UInt8.ofNat_toNat]

theorem identifierOctet_tells :
    ∀ spare identifier : Fin 16,
      (lowNibble (UInt8.ofNat (spare * 16 + identifier))).toNat = identifier := by
  decide +kernel

theorem exists_identifierOctet
    (octet : UInt8) :
    ∃ spare identifier : Fin 16, UInt8.ofNat (spare * 16 + identifier) = octet := by
  have small := octet.toNat_lt
  have number_eq : octet.toNat / 16 * 16 + octet.toNat % 16 = octet.toNat := by
    omega
  refine ⟨⟨octet.toNat / 16, by omega⟩, ⟨octet.toNat % 16, by omega⟩, ?_⟩
  rw [number_eq, UInt8.ofNat_toNat]

/-- A packet filter is read back. -/
theorem readFilter_parses
    (filter : PacketFilter) :
    readFilter.Parses filter.octets filter.value := by
  obtain ⟨direction_eq, identifier_eq⟩ :
      filter.header >>> 4 &&& 0x03 = UInt8.ofNat filter.direction ∧
        (lowNibble filter.header).toNat = filter.identifier :=
    filterHeader_tells filter.spare filter.direction filter.identifier
  apply (octet_parses filter.header).bind
  apply (number_parses filter.precedence.toNat_lt).bind
  apply (number_parses filter.contents_lt).bind
  intro window behind shape
  have components :
      filterComponents (.ofOctets filter.contents.octets window.position) =
        .ok filter.contents.values :=
    filterComponents_of_contents filter.contents (Window.ofOctets_rest _ _)
  rw [bind_eq_of_ok (inner_of_append shape), components, direction_eq, identifier_eq]
  rfl

/-- What is read as a packet filter is a complete one. -/
theorem readFilter_found
    {window : Window}
    {outcome : Value × Window}
    (read : readFilter window = .ok outcome) :
    ∃ filter : PacketFilter, filter.octets <+: window.rest := by
  obtain ⟨header, behindHeader, first, read⟩ := bind_eq_ok_iff.mp read
  obtain ⟨precedence, behindPrecedence, second, read⟩ := bind_eq_ok_iff.mp read
  obtain ⟨length, behindLength, third, read⟩ := bind_eq_ok_iff.mp read
  obtain ⟨content, last, fourth, read⟩ := bind_eq_ok_iff.mp read
  obtain ⟨values, _, fifth, -⟩ := bind_eq_ok_iff.mp read
  obtain ⟨precedenceSmall, precedence_shape⟩ := number_eq_ok second
  obtain ⟨lengthSmall, length_shape⟩ := number_eq_ok third
  obtain ⟨content_length, content_shape⟩ := inner_eq_ok fourth
  obtain ⟨spare, direction, identifier, rfl⟩ := exists_filterHeader header
  cases components : filterComponents content with
  | error fault =>
      rw [components] at fifth
      cases fifth
  | ok values =>
      obtain ⟨contents, contents_eq⟩ := filterComponents_found components
      have precedence_eq : (UInt8.ofNat precedence).toNat = precedence :=
        UInt8.toNat_ofNat_of_lt' precedenceSmall
      rw [contents_eq] at content_length content_shape
      subst length
      let filter : PacketFilter :=
        ⟨spare, direction, identifier, UInt8.ofNat precedence, contents, lengthSmall⟩
      have octets_eq :
          filter.octets =
            [filter.header] ++
              (bigEndianOctets 1 precedence ++ sizedOctets contents.octets) := by
        rw [PacketFilter.octets, precedence_eq]
      refine ⟨filter, last.rest, ?_⟩
      rw [octet_eq_ok first, precedence_shape, length_shape, content_shape, octets_eq, sizedOctets,
        List.append_assoc, List.append_assoc, List.append_assoc]
      rfl

theorem readFilter_failsShort :
    readFilter.FailsShort := by
  apply (ofRead_failsShort _).bind
  intro header
  apply (ofRead_failsShort _).bind
  intro precedence
  apply (ofRead_failsShort _).bind
  intro length
  apply (ofRead_failsShort _).bind
  intro content
  apply FailsShort.bind
  · intro window fault failed
    cases components : filterComponents content with
    | error reason =>
        rw [components] at failed
        cases failed
        exact filterComponents_failsShort components
    | ok values =>
        rw [components] at failed
        cases failed
  · exact fun values => pure_failsShort _

/-- The filters that suit the operation are read, and nothing else is. -/
theorem filterReader_recognizes
    (operation : UInt8) :
    (filterReader operation).Recognizes (FlowFilter.Suits operation) FlowFilter.octets
      FlowFilter.value := by
  rw [filterReader]
  split
  case isTrue deletes =>
    constructor
    case takesOctets =>
      exact fun filter _ => filter.octets_ne_nil
    case parses =>
      intro filter suits
      cases filter with
      | identifier spare number =>
          have parses :=
            (octet_parses (UInt8.ofNat (spare * 16 + number))).returning fun octet =>
              Value.fields [numberField "Packet filter identifier" (lowNibble octet).toNat]
          rwa [identifierOctet_tells] at parses
      | packet filter =>
          exact absurd deletes suits
    case found =>
      intro window outcome read
      obtain ⟨octet, after, first, -⟩ := bind_eq_ok_iff.mp read
      obtain ⟨spare, number, rfl⟩ := exists_identifierOctet octet
      exact ⟨.identifier spare number, deletes, after.rest, (octet_eq_ok first).symm⟩
    case short =>
      exact (ofRead_failsShort _).returning _
  case isFalse keeps =>
    constructor
    case takesOctets =>
      exact fun filter _ => filter.octets_ne_nil
    case parses =>
      intro filter suits
      cases filter with
      | identifier spare number =>
          exact absurd suits keeps
      | packet filter =>
          exact readFilter_parses filter
    case found =>
      intro window outcome read
      obtain ⟨filter, front⟩ := readFilter_found read
      exact ⟨.packet filter, keeps, front⟩
    case short =>
      exact readFilter_failsShort

end ElementValue

end LteNas
