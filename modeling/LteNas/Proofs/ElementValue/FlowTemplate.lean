import LteNas.Proofs.ElementValue.PacketFilter

namespace LteNas

/-!
# Flow templates

A template declares a number of filters, and may announce parameters that fill
what is behind them.  The octets behind its header are complete filters and
then end in one of a few ways, each of which is explained in one way.
-/

open ElementValue

/-! ## Parameters -/

structure FlowParameter where
  kind : UInt8
  contents : List UInt8
  contents_lt : contents.length < 256

namespace FlowParameter

def octets (parameter : FlowParameter) : List UInt8 :=
  [parameter.kind] ++ sizedOctets parameter.contents

/-- What is shown of a parameter. -/
def value (parameter : FlowParameter) : Value :=
  .fields
    [ ⟨"Parameter identifier", codedBy flowParameterKinds "Reserved" parameter.kind⟩,
      octetsField "Contents" parameter.contents ]

/-- Any parameter may stand in a template. -/
def Suits (_ : FlowParameter) : Prop :=
  True

end FlowParameter

/-- The field that shows parameters. -/
def parametersField (parameters : List FlowParameter) : Field :=
  ⟨"Parameters list", .list (parameters.map FlowParameter.value)⟩

namespace ElementValue

open Reader

theorem readFlowParameter_parses
    (parameter : FlowParameter) :
    readFlowParameter.Parses parameter.octets parameter.value := by
  apply (octet_parses parameter.kind).bind
  apply (number_parses parameter.contents_lt).bind
  exact (octets_parses parameter.contents).returning _

theorem readFlowParameter_found
    {window : Window}
    {outcome : Value × Window}
    (read : readFlowParameter window = .ok outcome) :
    ∃ parameter : FlowParameter, parameter.octets <+: window.rest := by
  obtain ⟨kind, behindKind, first, read⟩ := bind_eq_ok_iff.mp read
  obtain ⟨length, behindLength, second, read⟩ := bind_eq_ok_iff.mp read
  obtain ⟨contents, last, third, -⟩ := bind_eq_ok_iff.mp read
  obtain ⟨small, length_shape⟩ := number_eq_ok second
  obtain ⟨rfl, contents_shape⟩ := octets_eq_ok third
  refine ⟨⟨kind, contents, small⟩, last.rest, ?_⟩
  rw [octet_eq_ok first, length_shape, contents_shape, FlowParameter.octets, sizedOctets,
    List.append_assoc, List.append_assoc]
  rfl

theorem readFlowParameter_recognizes :
    readFlowParameter.Recognizes FlowParameter.Suits FlowParameter.octets FlowParameter.value where
  takesOctets parameter _ :=
    List.cons_ne_nil parameter.kind _
  parses parameter _ :=
    readFlowParameter_parses parameter
  found read :=
    let ⟨parameter, front⟩ := readFlowParameter_found read
    ⟨parameter, trivial, front⟩
  short :=
    (ofRead_failsShort _).bind fun _ =>
      (ofRead_failsShort _).bind fun _ => (ofRead_failsShort _).returning _

section Parameters

variable {window : Window}

/-- Announced parameters are read as far as they are complete. -/
theorem readFlowParameters_of_announced
    (parameters : List FlowParameter)
    {left : List UInt8}
    (none : BeginsWithNone FlowParameter.Suits FlowParameter.octets left)
    (shape : window.rest = parameters.flatMap FlowParameter.octets ++ left) :
    readFlowParameters true window =
      .ok
        (([parametersField parameters],
            if left = [] then [] else [window.cutOff "Parameters list" left]),
          window.exhaust) := by
  have read :=
    readFlowParameter_recognizes.completeOnes_eq (fun _ _ => trivial) none "Parameters list" shape
  rw [readFlowParameters, if_pos rfl, bind_eq_of_ok read]
  rfl

/-- Where no parameters are announced, no octet may be left. -/
theorem readFlowParameters_of_unannounced
    (window : Window) :
    readFlowParameters false window =
      if window.rest = [] then
        .ok (([], []), window)
      else
        .error (.lengthMismatch window.index window.length) := by
  rw [readFlowParameters, if_neg Bool.false_ne_true, bind_eq_of_ok (here_eq window),
    Window.isEmpty]
  split
  case isTrue empty =>
    rw [if_pos (List.isEmpty_iff.mp empty)]
    rfl
  case isFalse more =>
    rw [if_neg (mt List.isEmpty_iff.mpr more)]
    rfl

/-- Without octets there are no parameters, even if they are announced. -/
theorem readFlowParameters_of_rest_nil
    (announced : Bool)
    (empty : window.rest = []) :
    readFlowParameters announced window =
      .ok ((if announced then [parametersField []] else [], []), window) := by
  cases announced with
  | false =>
      rw [readFlowParameters_of_unannounced, if_pos empty]
      rfl
  | true =>
      have none : BeginsWithNone FlowParameter.Suits FlowParameter.octets [] :=
        beginsWithNone_nil readFlowParameter_recognizes.takesOctets
      rw [readFlowParameters_of_announced [] none empty, if_pos rfl,
        Window.exhaust_of_rest_nil empty]
      rfl

end Parameters

end ElementValue

/-! ## Endings -/

/-- How the octets behind the filters of a template end. -/
inductive TemplateEnding where
  /-- There are fewer filters than declared, and the octets begin with none. -/
  | few (left : List UInt8)
  /-- All filters are there, and no parameters are announced. -/
  | plain (left : List UInt8)
  /-- Announced parameters, and octets that begin with none. -/
  | parameters (list : List FlowParameter) (left : List UInt8)

/-- What is shown of a template. -/
def templateValue
    (header : UInt8)
    (filters : List FlowFilter)
    (parameters : List Field) :
    Value :=
  .fields
    ([ ⟨"TFT operation code", codedBy flowOperations "Reserved" (header >>> 5)⟩,
        flagField "E bit" header 5,
        numberField "Number of packet filters" (lowNibble header).toNat,
        ⟨"Packet filters", .list (filters.map FlowFilter.value)⟩ ] ++ parameters)

namespace TemplateEnding

/-- The octets behind the last filter or parameter. -/
def left : TemplateEnding → List UInt8
  | .few left => left
  | .plain left => left
  | .parameters _ left => left

/-- The octets behind the filters. -/
def octets : TemplateEnding → List UInt8
  | .few left => left
  | .plain left => left
  | .parameters list left => list.flatMap FlowParameter.octets ++ left

/-- A template with the header and so many filters may end so. -/
def Ends (header : UInt8) (found : Nat) : TemplateEnding → Prop
  | .few left =>
      found < (lowNibble header).toNat ∧
        BeginsWithNone (FlowFilter.Suits (header >>> 5)) FlowFilter.octets left
  | .plain _ =>
      found = (lowNibble header).toNat ∧ bit header 5 = false
  | .parameters _ left =>
      found = (lowNibble header).toNat ∧ bit header 5 = true ∧
        BeginsWithNone FlowParameter.Suits FlowParameter.octets left

/-- The parameters that are shown, where they are announced. -/
def fields (announced : Bool) : TemplateEnding → List Field
  | .few _ => if announced then [parametersField []] else []
  | .plain _ => []
  | .parameters list _ => [parametersField list]

section Reading

variable (header : UInt8) (filters : List FlowFilter) (whole : Window) (ending : TemplateEnding)

/-- The value of a template, or why there is none. -/
def outcome : Except Fault (Value × Window) :=
  let shown := (templateValue header filters (ending.fields (bit header 5)), whole.exhaust)
  match ending with
  | .plain left =>
      if left = [] then
        .ok shown
      else
        .error (.lengthMismatch (whole.length - left.length) whole.length)
  | .few _ | .parameters _ _ => .ok shown

/-- What is reported of a template. -/
def findings : List Diagnostic :=
  match ending with
  | .few left =>
      if left = [] then
        [ ⟨.wrongNumberOfElements (lowNibble header).toNat filters.length,
            whole.remainingSpan⟩ ]
      else
        [whole.cutOff "Packet filter" left]
  | .plain _ => []
  | .parameters _ left =>
      if left = [] then [] else [whole.cutOff "Parameters list" left]

/-- What is made of a template. -/
def reading (scope : Scope) : Reading :=
  ⟨ending.outcome header filters whole, ending.findings header filters whole,
    scope.containerType⟩

end Reading

end TemplateEnding

/-- The octets behind the header are these filters, and end so. -/
structure IsTemplate
    (header : UInt8)
    (body : List UInt8)
    (filters : List FlowFilter)
    (ending : TemplateEnding) :
    Prop where
  shape : body = filters.flatMap FlowFilter.octets ++ ending.octets
  suit : ∀ filter ∈ filters, filter.Suits (header >>> 5)
  ends : ending.Ends header filters.length

/-- Filters in front of octets: as many as the header declares, or as are there. -/
abbrev IsFilterRun
    (header : UInt8)
    (filters : List FlowFilter)
    (behind : List UInt8) :
    Prop :=
  IsItemRun (FlowFilter.Suits (header >>> 5)) FlowFilter.octets (lowNibble header).toNat filters
    behind

theorem IsTemplate.run
    {header : UInt8}
    {body : List UInt8}
    {filters : List FlowFilter}
    {ending : TemplateEnding}
    (template : IsTemplate header body filters ending) :
    IsFilterRun header filters ending.octets := by
  obtain ⟨-, suit, ends⟩ := template
  cases ending with
  | few left =>
      exact ⟨suit, Nat.le_of_lt ends.1, fun _ => ends.2⟩
  | plain left =>
      exact ⟨suit, Nat.le_of_eq ends.1, fun few => absurd ends.1 (Nat.ne_of_lt few)⟩
  | parameters list left =>
      exact ⟨suit, Nat.le_of_eq ends.1, fun few => absurd ends.1 (Nat.ne_of_lt few)⟩

namespace ElementValue

open Reader

/-- Any octets behind any header are filters that end in some way. -/
theorem exists_isTemplate
    (header : UInt8)
    (body : List UInt8) :
    ∃ filters ending, IsTemplate header body filters ending := by
  obtain ⟨filters, behind, rfl, run⟩ :=
    exists_itemRun (FlowFilter.Suits (header >>> 5)) FlowFilter.octets (lowNibble header).toNat body
  by_cases few : filters.length < (lowNibble header).toNat
  · exact ⟨filters, .few behind, rfl, run.areGood, few, run.ended few⟩
  · have all : filters.length = (lowNibble header).toNat :=
      Nat.le_antisymm run.length_le (Nat.le_of_not_lt few)
    cases announced : bit header 5 with
    | false =>
        exact ⟨filters, .plain behind, rfl, run.areGood, all, announced⟩
    | true =>
        obtain ⟨parameters, left, rfl, -, none⟩ :=
          exists_itemRun_all readFlowParameter_recognizes.takesOctets behind
        exact ⟨filters, .parameters parameters left, rfl, run.areGood, all, announced, none⟩

/-- How the filters of a template are read, which depends on its header. -/
def readFilters (header : UInt8) : Reader (List Value × List Diagnostic) :=
  Reader.upTo (lowNibble header).toNat "Packet filter" (filterReader (header >>> 5))

section Template

variable {header : UInt8} {body behind left : List UInt8} {filters : List FlowFilter}
  {ending : TemplateEnding} {whole after : Window} {complaints : List Diagnostic}

/-! ### The parts of a template -/

theorem behindFilters_rest
    (shape : whole.rest = header :: (filters.flatMap FlowFilter.octets ++ behind)) :
    (whole.advance (1 + (filters.flatMap FlowFilter.octets).length)).rest = behind := by
  rw [Window.advance_rest, shape, Nat.add_comm, List.drop_succ_cons, List.drop_left]

theorem remaining_of_filters
    (shape : whole.rest = header :: (filters.flatMap FlowFilter.octets ++ behind)) :
    whole.remaining = 1 + (filters.flatMap FlowFilter.octets).length + behind.length := by
  rw [Window.remaining, shape, List.length_cons, List.length_append]
  omega

/-- Filters are read when all of them are there, or nothing is behind them. -/
theorem filters_read
    (shape : whole.rest = header :: (filters.flatMap FlowFilter.octets ++ behind))
    (run : IsFilterRun header filters behind)
    (ended : filters.length = (lowNibble header).toNat ∨ behind = []) :
    readFilters header (whole.advance 1) =
      .ok
        ((filters.map FlowFilter.value, []),
          whole.advance (1 + (filters.flatMap FlowFilter.octets).length)) := by
  have body_eq : (whole.advance 1).rest = filters.flatMap FlowFilter.octets ++ behind := by
    rw [Window.advance_rest, shape]
    rfl
  rw [readFilters, (filterReader_recognizes (header >>> 5)).upTo_of_ended run ended _ body_eq,
    Window.advance_advance]

/-- The octets behind the filters are reported when filters are missing. -/
theorem filters_read_of_cut
    (shape : whole.rest = header :: (filters.flatMap FlowFilter.octets ++ behind))
    (run : IsFilterRun header filters behind)
    (few : filters.length < (lowNibble header).toNat)
    (more : behind ≠ []) :
    readFilters header (whole.advance 1) =
      .ok
        ((filters.map FlowFilter.value, [whole.cutOff "Packet filter" behind]),
          whole.exhaust) := by
  have body_eq : (whole.advance 1).rest = filters.flatMap FlowFilter.octets ++ behind := by
    rw [Window.advance_rest, shape]
    rfl
  have headerFits : 1 ≤ whole.remaining := by
    have fit := remaining_of_filters shape
    omega
  rw [readFilters, (filterReader_recognizes (header >>> 5)).upTo_of_cut run few more _ body_eq,
    Window.advance_exhaust headerFits, Window.advance_cutOff headerFits]

/-- Behind the header come the filters, and behind these the parameters. -/
theorem trafficFlow_of_ok
    {parameters : List Field}
    {diagnostics : List Diagnostic}
    {last : Window}
    (shape : whole.rest = header :: body)
    (filtersRead :
      readFilters header (whole.advance 1) =
        .ok ((filters.map FlowFilter.value, complaints), after))
    (parametersRead :
      readFlowParameters (bit header 5) after = .ok ((parameters, diagnostics), last))
    (scope : Scope) :
    trafficFlow scope whole =
      ⟨.ok (templateValue header filters parameters, last),
        filterDiagnostics whole (lowNibble header).toNat filters.length complaints ++ diagnostics,
        scope.containerType⟩ := by
  rw [readFilters] at filtersRead
  rw [trafficFlow, Reader.reporting, bind_eq_of_ok (here_eq whole),
    bind_eq_of_ok (octet_parses header whole body shape), List.length_singleton,
    bind_eq_of_ok filtersRead]
  dsimp only
  rw [bind_eq_of_ok parametersRead, List.length_map]
  rfl

theorem trafficFlow_of_error
    {fault : Fault}
    (shape : whole.rest = header :: body)
    (filtersRead :
      readFilters header (whole.advance 1) =
        .ok ((filters.map FlowFilter.value, complaints), after))
    (parametersRead : readFlowParameters (bit header 5) after = .error fault)
    (scope : Scope) :
    trafficFlow scope whole = ⟨.error fault, [], scope.containerType⟩ := by
  rw [readFilters] at filtersRead
  rw [trafficFlow, Reader.reporting, bind_eq_of_ok (here_eq whole),
    bind_eq_of_ok (octet_parses header whole body shape), List.length_singleton,
    bind_eq_of_ok filtersRead]
  dsimp only
  rw [bind_eq_of_error parametersRead]

theorem filterDiagnostics_of_all
    (start : Window)
    {declared found : Nat}
    (all : found = declared) :
    filterDiagnostics start declared found [] = [] := by
  rw [filterDiagnostics, if_neg fun ⟨_, unequal⟩ => unequal all]

theorem filterDiagnostics_of_few
    (start : Window)
    {declared found : Nat}
    (few : found < declared) :
    filterDiagnostics start declared found [] =
      [⟨.wrongNumberOfElements declared found, start.remainingSpan⟩] := by
  rw [filterDiagnostics, if_pos ⟨List.isEmpty_nil, Nat.ne_of_lt few⟩]

/-- The number of filters is not reported beside a filter. -/
theorem filterDiagnostics_of_complaint
    (start : Window)
    (declared found : Nat)
    (complaint : Diagnostic) :
    filterDiagnostics start declared found [complaint] = [complaint] := by
  rw [filterDiagnostics, if_neg fun ⟨empty, _⟩ => Bool.false_ne_true empty]

/-! ### Templates by their endings -/

theorem trafficFlow_of_few
    (shape : whole.rest = header :: (filters.flatMap FlowFilter.octets ++ left))
    (run : IsFilterRun header filters left)
    (few : filters.length < (lowNibble header).toNat)
    (scope : Scope) :
    trafficFlow scope whole = (TemplateEnding.few left).reading header filters whole scope := by
  have exhausted : whole.exhaust.rest = [] :=
    List.drop_length
  have parametersRead := readFlowParameters_of_rest_nil (bit header 5) exhausted
  by_cases empty : left = []
  · have filtersRead := filters_read shape run (.inr empty)
    have nothing :
        whole.advance (1 + (filters.flatMap FlowFilter.octets).length) = whole.exhaust := by
      rw [Window.exhaust, remaining_of_filters shape, empty]
      rfl
    rw [nothing] at filtersRead
    rw [trafficFlow_of_ok shape filtersRead parametersRead, filterDiagnostics_of_few whole few,
      List.append_nil, TemplateEnding.reading, TemplateEnding.findings, if_pos empty]
    rfl
  · have filtersRead := filters_read_of_cut shape run few empty
    rw [trafficFlow_of_ok shape filtersRead parametersRead, filterDiagnostics_of_complaint,
      List.append_nil, TemplateEnding.reading, TemplateEnding.findings, if_neg empty]
    rfl

theorem trafficFlow_of_plain
    (shape : whole.rest = header :: (filters.flatMap FlowFilter.octets ++ left))
    (run : IsFilterRun header filters left)
    (all : filters.length = (lowNibble header).toNat)
    (unannounced : bit header 5 = false)
    (scope : Scope) :
    trafficFlow scope whole = (TemplateEnding.plain left).reading header filters whole scope := by
  have filtersRead := filters_read shape run (.inl all)
  have fit := remaining_of_filters shape
  have parametersRead :=
    readFlowParameters_of_unannounced
      (whole.advance (1 + (filters.flatMap FlowFilter.octets).length))
  rw [behindFilters_rest shape, ← unannounced] at parametersRead
  by_cases empty : left = []
  · have nothing :
        whole.advance (1 + (filters.flatMap FlowFilter.octets).length) = whole.exhaust := by
      rw [Window.exhaust, fit, empty]
      rfl
    rw [if_pos empty] at parametersRead
    rw [trafficFlow_of_ok shape filtersRead parametersRead, filterDiagnostics_of_all whole all,
      nothing, TemplateEnding.reading, TemplateEnding.outcome, if_pos empty]
    rfl
  · have index_eq :
        (whole.advance (1 + (filters.flatMap FlowFilter.octets).length)).index =
          whole.length - left.length := by
      rw [Window.advance, Window.length, fit]
      dsimp only
      omega
    have length_eq :
        (whole.advance (1 + (filters.flatMap FlowFilter.octets).length)).length =
          whole.length := by
      rw [Window.length, index_eq, Window.advance_remaining, Window.length, fit]
      omega
    rw [if_neg empty, index_eq, length_eq] at parametersRead
    rw [trafficFlow_of_error shape filtersRead parametersRead, TemplateEnding.reading,
      TemplateEnding.outcome, if_neg empty]
    rfl

theorem trafficFlow_of_parameters
    {parameters : List FlowParameter}
    (shape :
      whole.rest =
        header ::
          (filters.flatMap FlowFilter.octets ++
            (parameters.flatMap FlowParameter.octets ++ left)))
    (run : IsFilterRun header filters (parameters.flatMap FlowParameter.octets ++ left))
    (all : filters.length = (lowNibble header).toNat)
    (announced : bit header 5 = true)
    (none : BeginsWithNone FlowParameter.Suits FlowParameter.octets left)
    (scope : Scope) :
    trafficFlow scope whole =
      (TemplateEnding.parameters parameters left).reading header filters whole scope := by
  have filtersFit : 1 + (filters.flatMap FlowFilter.octets).length ≤ whole.remaining := by
    rw [remaining_of_filters shape]
    exact Nat.le_add_right _ _
  have filtersRead := filters_read shape run (.inl all)
  have parametersRead := readFlowParameters_of_announced parameters none (behindFilters_rest shape)
  rw [← announced, Window.advance_exhaust filtersFit, Window.advance_cutOff filtersFit]
    at parametersRead
  rw [trafficFlow_of_ok shape filtersRead parametersRead, filterDiagnostics_of_all whole all,
    List.nil_append]
  rfl

/-- A template is read as its ending tells. -/
theorem trafficFlow_eq_reading
    (template : IsTemplate header body filters ending)
    (shape : whole.rest = header :: body)
    (scope : Scope) :
    trafficFlow scope whole = ending.reading header filters whole scope := by
  have run := template.run
  have ends := template.ends
  rw [template.shape] at shape
  cases ending with
  | few left =>
      exact trafficFlow_of_few shape run ends.1 scope
  | plain left =>
      exact trafficFlow_of_plain shape run ends.1 ends.2 scope
  | parameters list left =>
      exact trafficFlow_of_parameters shape run ends.1 ends.2.1 ends.2.2 scope

end Template

end ElementValue

/-! ## Well-formed templates -/

/-- A template that says what it holds. -/
structure FlowTemplate where
  operation : Fin 8
  filters : List FlowFilter
  /-- The parameters, if they are announced. -/
  parameters : Option (List FlowParameter)
  suit : ∀ filter ∈ filters, filter.Suits (UInt8.ofNat operation)
  few : filters.length < 16

namespace FlowTemplate

def header (template : FlowTemplate) : UInt8 :=
  UInt8.ofNat
    (template.operation * 32 + template.parameters.isSome.toNat * 16 + template.filters.length)

def body (template : FlowTemplate) : List UInt8 :=
  template.filters.flatMap FlowFilter.octets ++
    (template.parameters.getD []).flatMap FlowParameter.octets

def octets (template : FlowTemplate) : List UInt8 :=
  template.header :: template.body

/-- What is shown of a template. -/
def value (template : FlowTemplate) : Value :=
  .fields
    ([ ⟨"TFT operation code",
          codedBy flowOperations "Reserved" (UInt8.ofNat template.operation)⟩,
        ⟨"E bit", .flag template.parameters.isSome⟩,
        numberField "Number of packet filters" template.filters.length,
        ⟨"Packet filters", .list (template.filters.map FlowFilter.value)⟩ ] ++
      (template.parameters.map parametersField).toList)

def ending (template : FlowTemplate) : TemplateEnding :=
  match template.parameters with
  | none => .plain []
  | some parameters => .parameters parameters []

end FlowTemplate

namespace ElementValue

theorem templateHeader_tells :
    ∀ (operation : Fin 8) (announced : Bool) (declared : Fin 16),
      let header := UInt8.ofNat (operation * 32 + announced.toNat * 16 + declared)
      header >>> 5 = UInt8.ofNat operation ∧ bit header 5 = announced ∧
        (lowNibble header).toNat = declared := by
  decide +kernel

section WellFormed

variable (template : FlowTemplate)

theorem flowTemplate_header_tells :
    template.header >>> 5 = UInt8.ofNat template.operation ∧
      bit template.header 5 = template.parameters.isSome ∧
        (lowNibble template.header).toNat = template.filters.length :=
  templateHeader_tells template.operation template.parameters.isSome ⟨_, template.few⟩

theorem flowTemplate_isTemplate :
    IsTemplate template.header template.body template.filters template.ending := by
  obtain ⟨operation_eq, announced_eq, declared_eq⟩ := flowTemplate_header_tells template
  have suit : ∀ filter ∈ template.filters, filter.Suits (template.header >>> 5) := by
    rw [operation_eq]
    exact template.suit
  cases given : template.parameters with
  | none =>
      rw [given] at announced_eq
      rw [FlowTemplate.body, FlowTemplate.ending, given]
      exact ⟨rfl, suit, declared_eq.symm, announced_eq⟩
  | some parameters =>
      rw [given] at announced_eq
      rw [FlowTemplate.body, FlowTemplate.ending, given]
      refine ⟨?_, suit, declared_eq.symm, announced_eq, ?_⟩
      · rw [TemplateEnding.octets, List.append_nil, Option.getD_some]
      · exact beginsWithNone_nil readFlowParameter_recognizes.takesOctets

theorem flowTemplate_value_eq :
    template.value =
      templateValue template.header template.filters
        (template.parameters.map parametersField).toList := by
  obtain ⟨operation_eq, announced_eq, declared_eq⟩ := flowTemplate_header_tells template
  rw [templateValue, flagField, operation_eq, announced_eq, declared_eq, FlowTemplate.value]

/-- A template is read back, with all that it holds. -/
theorem trafficFlow_reads :
    OctetDecoder.Reads trafficFlow template.octets template.value := by
  intro scope base
  rw [FlowTemplate.octets, flowTemplate_value_eq,
    trafficFlow_eq_reading (flowTemplate_isTemplate template) (Window.ofOctets_rest _ base) scope,
    FlowTemplate.ending]
  cases template.parameters with
  | none =>
      rfl
  | some parameters =>
      rfl

end WellFormed

/-- A flow identifier alone. -/
example :
    FlowTemplate.octets ⟨1, [], some [⟨2, [5], by decide⟩], by decide, by decide⟩ =
      [0x30, 0x02, 0x01, 0x05] := by
  decide

end ElementValue

/-! ## Malformed templates -/

/-- What a reading tells of a template with so many filters and octets left behind the last part. -/
structure IsExplained
    (reading : Reading)
    (whole : Window)
    (declared found : Nat)
    (announced : Bool)
    (left : List UInt8) :
    Prop where
  found_le : found ≤ declared
  /-- There is no value exactly where octets follow all filters and no parameters are announced. -/
  fails_iff : ∀ fault,
    reading.outcome = .error fault ↔
      (found = declared ∧ announced = false ∧ left ≠ []) ∧
        fault = .lengthMismatch (whole.length - left.length) whole.length
  /-- A value takes all octets. -/
  takesAll : ∀ value after, reading.outcome = .ok (value, after) → after = whole.exhaust
  /-- Nothing is reported beside a fault. -/
  silent : ∀ fault, reading.outcome = .error fault → reading.diagnostics = []
  reports_le : reading.diagnostics.length ≤ 1
  /-- The octets end between filters, or within a filter, or within a parameter. -/
  reports_iff : ∀ report,
    report ∈ reading.diagnostics ↔
      ((found < declared ∧ left = []) ∧
          report = ⟨.wrongNumberOfElements declared found, whole.remainingSpan⟩) ∨
        ((found < declared ∧ left ≠ []) ∧ report = whole.cutOff "Packet filter" left) ∨
        ((found = declared ∧ announced = true ∧ left ≠ []) ∧
          report = whole.cutOff "Parameters list" left)

namespace TemplateEnding

section Explained

variable {header : UInt8} {filters : List FlowFilter} {ending : TemplateEnding}

theorem found_le
    (ends : ending.Ends header filters.length) :
    filters.length ≤ (lowNibble header).toNat := by
  cases ending with
  | few left =>
      exact Nat.le_of_lt ends.1
  | plain left =>
      exact Nat.le_of_eq ends.1
  | parameters list left =>
      exact Nat.le_of_eq ends.1

theorem outcome_eq_error_iff
    (ends : ending.Ends header filters.length)
    (whole : Window)
    (fault : Fault) :
    ending.outcome header filters whole = .error fault ↔
      (filters.length = (lowNibble header).toNat ∧ bit header 5 = false ∧ ending.left ≠ []) ∧
        fault = .lengthMismatch (whole.length - ending.left.length) whole.length := by
  cases ending with
  | few left =>
      simp [outcome, Nat.ne_of_lt ends.1]
  | plain left =>
      by_cases empty : left = []
      · simp [outcome, TemplateEnding.left, empty]
      · simp [outcome, TemplateEnding.left, empty, ends.1, ends.2, eq_comm]
  | parameters list left =>
      simp [outcome, ends.2.1]

theorem eq_exhaust_of_outcome
    {value : Value}
    {whole after : Window}
    (read : ending.outcome header filters whole = .ok (value, after)) :
    after = whole.exhaust := by
  cases ending with
  | few left | parameters list left =>
      cases read
      rfl
  | plain left =>
      rw [outcome] at read
      split at read
      · cases read
        rfl
      · cases read

theorem findings_of_outcome_error
    {whole : Window}
    {fault : Fault}
    (failed : ending.outcome header filters whole = .error fault) :
    ending.findings header filters whole = [] := by
  cases ending with
  | few left | parameters list left =>
      cases failed
  | plain left =>
      rfl

theorem findings_length_le
    (whole : Window) :
    (ending.findings header filters whole).length ≤ 1 := by
  cases ending with
  | few left | parameters list left =>
      rw [findings]
      split <;> simp
  | plain left =>
      exact Nat.zero_le 1

theorem mem_findings_iff
    (ends : ending.Ends header filters.length)
    (whole : Window)
    (report : Diagnostic) :
    report ∈ ending.findings header filters whole ↔
      ((filters.length < (lowNibble header).toNat ∧ ending.left = []) ∧
          report =
            ⟨.wrongNumberOfElements (lowNibble header).toNat filters.length,
              whole.remainingSpan⟩) ∨
        ((filters.length < (lowNibble header).toNat ∧ ending.left ≠ []) ∧
          report = whole.cutOff "Packet filter" ending.left) ∨
        ((filters.length = (lowNibble header).toNat ∧ bit header 5 = true ∧ ending.left ≠ []) ∧
          report = whole.cutOff "Parameters list" ending.left) := by
  cases ending with
  | few left =>
      by_cases empty : left = [] <;>
        simp [findings, TemplateEnding.left, empty, ends.1, Nat.ne_of_lt ends.1]
  | plain left =>
      simp [findings, ends.1, ends.2]
  | parameters list left =>
      by_cases empty : left = [] <;>
        simp [findings, TemplateEnding.left, empty, ends.1, ends.2.1]

end Explained

end TemplateEnding

namespace ElementValue

/--
Any octets behind any header are complete filters and an ending, and these tell what
is made of the template: all complete filters and parameters, or a fault, and what is
reported of it, which is one thing at most.
-/
theorem trafficFlow_isExplained
    (scope : Scope)
    (header : UInt8)
    (body : List UInt8)
    (base : Nat) :
    let whole := Window.ofOctets (header :: body) base
    (∃ filters ending, IsTemplate header body filters ending) ∧
      ∀ filters ending, IsTemplate header body filters ending →
        trafficFlow scope whole = ending.reading header filters whole scope ∧
          IsExplained (trafficFlow scope whole) whole (lowNibble header).toNat filters.length
            (bit header 5) ending.left := by
  intro whole
  refine ⟨exists_isTemplate header body, ?_⟩
  intro filters ending template
  have ends := template.ends
  have read := trafficFlow_eq_reading template (Window.ofOctets_rest (header :: body) base) scope
  refine ⟨read, ?_⟩
  rw [read]
  exact
    { found_le := TemplateEnding.found_le ends
      fails_iff := TemplateEnding.outcome_eq_error_iff ends whole
      takesAll := fun _ _ => TemplateEnding.eq_exhaust_of_outcome
      silent := fun _ => TemplateEnding.findings_of_outcome_error
      reports_le := TemplateEnding.findings_length_le whole
      reports_iff := TemplateEnding.mem_findings_iff ends whole }

/-- Of two filters that are declared the second is cut off; the first, on a remote port, is kept. -/
theorem trafficFlow_isExplained_of_cutFilter :
    let filter : FlowFilter :=
      .packet ⟨0, 3, 1, 0x10, ⟨[.port .remote 5060], none⟩, by decide⟩
    let left : List UInt8 := [0x32, 0x20, 0x09, 0x10, 0x0A]
    let body := [0x31, 0x10, 0x03, 0x50, 0x13, 0xC4] ++ left
    IsTemplate 0x22 body [filter] (.few left) ∧
      ∀ (scope : Scope) (base : Nat),
        let whole := Window.ofOctets (0x22 :: body) base
        trafficFlow scope whole =
          ⟨.ok (templateValue 0x22 [filter] [], whole.exhaust),
            [⟨.outOfBounds "Packet filter", ⟨base + 7, base + 12⟩⟩],
            scope.containerType⟩ := by
  intro filter left body
  have none :
      BeginsWithNone (FlowFilter.Suits ((0x22 : UInt8) >>> 5)) FlowFilter.octets left :=
    (filterReader_recognizes ((0x22 : UInt8) >>> 5)).beginsWithNone (.ofOctets left 0) rfl
  have template : IsTemplate 0x22 body [filter] (.few left) :=
    ⟨rfl, by decide, by decide, none⟩
  exact ⟨template, fun scope base =>
    ((trafficFlow_isExplained scope 0x22 body base).2 _ _ template).1⟩

end ElementValue

end LteNas
