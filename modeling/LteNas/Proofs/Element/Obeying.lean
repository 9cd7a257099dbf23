import LteNas.ElementValue.Container
import LteNas.Element.Catalogue
import LteNas.Proofs.Message.Counting
import LteNas.Proofs.Message.OneLine

namespace LteNas

/-!
# What decoders put into messages

The names that decoders give are headings, and the words that they choose are of
one line.  Only texts that come from outside can be anything.
-/

open Text

/-- The rules that all decoders keep to. -/
def Rules.decoded : Rules where
  name := IsHeading
  word := IsUnbroken
  text := fun _ => True
  envelope := Envelope.IsComplete

@[simp] theorem Rules.decoded_name
    {text : String} :
    Rules.decoded.name text ↔ IsHeading text :=
  Iff.rfl

@[simp] theorem Rules.decoded_word
    {text : String} :
    Rules.decoded.word text ↔ IsUnbroken text :=
  Iff.rfl

@[simp] theorem Rules.decoded_text
    {text : String} :
    Rules.decoded.text text :=
  trivial

/-! ## Words -/

/-- All texts are of one line. -/
def Unbroken (texts : List String) : Prop :=
  ∀ text ∈ texts, IsUnbroken text

theorem Unbroken.nil :
    Unbroken [] := by
  simp [Unbroken]

/-- A list of literals is checked one by one. -/
theorem Unbroken.cons
    {characters : List Char}
    {texts : List String}
    (unbroken : characters.all (· != '\n') = true)
    (others : Unbroken texts) :
    Unbroken (String.ofList characters :: texts) :=
  List.forall_mem_cons.mpr ⟨.of_characters unbroken, others⟩

/-! ## Parts of values -/

theorem FieldsObey.nil :
    FieldsObey .decoded [] :=
  trivial

/-- A list of fields with literal names is checked one by one. -/
theorem FieldsObey.cons
    {characters : List Char}
    {value : Value}
    {parts : List Field}
    (heading : areHeading characters = true)
    (obeys : value.Obeys .decoded)
    (others : FieldsObey .decoded parts) :
    FieldsObey .decoded (⟨String.ofList characters, value⟩ :: parts) :=
  ⟨⟨IsHeading.of_characters heading, obeys⟩, others⟩

theorem FieldsObey.prepend
    {part : Field}
    {parts : List Field}
    (obeys : part.Obeys .decoded)
    (others : FieldsObey .decoded parts) :
    FieldsObey .decoded (part :: parts) := by
  cases part
  exact ⟨obeys, others⟩

theorem FieldsObey.append
    {first second : List Field}
    (front : FieldsObey .decoded first)
    (back : FieldsObey .decoded second) :
    FieldsObey .decoded (first ++ second) := by
  rw [fieldsObey_iff] at *
  exact List.forall_mem_append.mpr ⟨front, back⟩

/-- A part that may be missing obeys the rules if it obeys them where it is there. -/
theorem FieldsObey.optional
    {value? : Option α}
    {part : α → Field}
    (obeys : ∀ value, (part value).Obeys .decoded) :
    FieldsObey .decoded (value?.map part).toList := by
  cases value? with
  | none =>
      exact .nil
  | some value =>
      exact .prepend (obeys value) .nil

/-- All names can begin a line. -/
def Headings (names : List String) : Prop :=
  ∀ name ∈ names, IsHeading name

theorem Headings.nil :
    Headings [] := by
  simp [Headings]

theorem Headings.cons
    {characters : List Char}
    {names : List String}
    (heading : areHeading characters = true)
    (others : Headings names) :
    Headings (String.ofList characters :: names) :=
  List.forall_mem_cons.mpr ⟨.of_characters heading, others⟩

/-- A name from a list, or none, is of one line. -/
theorem Headings.getD_isUnbroken
    {names : List String}
    (headings : Headings names)
    (index : Nat) :
    IsUnbroken (names.getD index "") := by
  rw [List.getD_eq_getElem?_getD]
  cases found : names[index]? with
  | none =>
      exact .of_characters rfl
  | some name =>
      exact (headings name (List.mem_of_getElem? found)).isUnbroken

theorem flagFields_obey
    {octet : UInt8}
    {names : List String}
    (headings : Headings names) :
    FieldsObey .decoded (flagFields octet names) := by
  rw [fieldsObey_iff]
  intro part member
  obtain ⟨index, inside, rfl⟩ := List.mem_mapIdx.mp member
  exact ⟨headings _ (List.getElem_mem inside), trivial⟩

theorem codedBy_obeys
    {table : List (Nat × String)}
    {other : String}
    {code : UInt8}
    (meanings : Unbroken (other :: table.map Prod.snd)) :
    (codedBy table other code).Obeys .decoded := by
  obtain ⟨otherUnbroken, tableUnbroken⟩ := List.forall_mem_cons.mp meanings
  rw [codedBy, Value.Obeys, Rules.decoded_word]
  cases found : table.lookup code.toNat with
  | none =>
      exact otherUnbroken
  | some meaning =>
      obtain ⟨front, back, table_eq, -⟩ := List.lookup_eq_some_iff.mp found
      apply tableUnbroken meaning
      rw [table_eq]
      simp

theorem codedBit_obeys
    {set clear : String}
    {octet : UInt8}
    {place : Nat}
    (meanings : Unbroken [set, clear]) :
    (codedBit octet place set clear).Obeys .decoded := by
  simp only [Unbroken, List.forall_mem_cons] at meanings
  rw [codedBit]
  split
  · exact meanings.1
  · exact meanings.2.1

/-- Half an octet always stands for a value that obeys the rules. -/
def NibbleDecoder.Obeys (decode : NibbleDecoder) : Prop :=
  ∀ nibble, (decode nibble).Obeys .decoded

/-! ## Readers -/

namespace Reader

variable {good : β → Prop} {holds : α → Prop} {value : β} {reader : Reader α}
  {next : α → Reader β}

/-- What the reader reads has the property. -/
def Yields (reader : Reader α) (holds : α → Prop) : Prop :=
  ∀ window value after, reader window = .ok (value, after) → holds value

theorem Yields.pure
    (isGood : good value) :
    Yields (Pure.pure value) good := by
  intro window other after read
  cases read
  exact isGood

theorem Yields.bind
    (front : reader.Yields holds)
    (back : ∀ value, holds value → (next value).Yields good) :
    Yields (reader >>= next) good := by
  intro window value after read
  have read_eq :
      (reader >>= next) window = (reader window).bind fun (value, after) => next value after := by
    rfl
  rw [read_eq] at read
  cases first : reader window with
  | error fault =>
      rw [first] at read
      contradiction
  | ok outcome =>
      rw [first] at read
      exact back _ (front window _ _ first) _ value after read

/-- What was read in front may be anything. -/
theorem Yields.after
    (back : ∀ value, (next value).Yields good) :
    Yields (reader >>= next) good := by
  have anything : reader.Yields fun _ => True :=
    fun _ _ _ _ => trivial
  exact anything.bind fun value _ => back value

/-- A reader that goes on by hand behind what it read in front. -/
theorem Yields.of_start
    {proceed : Window → α × Window → Except Fault (β × Window)}
    (back : ∀ start front value after, proceed start front = .ok (value, after) → good value) :
    Reader.Yields (fun start => reader start >>= proceed start) good := by
  intro start value after read
  cases front : reader start with
  | error fault =>
      simp only [front, Bind.bind, Except.bind] at read
      contradiction
  | ok outcome =>
      simp only [front, Bind.bind, Except.bind] at read
      exact back start outcome value after read

theorem Yields.fail
    {fault : Fault} :
    Yields (Reader.fail fault) good := by
  intro window value after read
  contradiction

theorem Yields.ifMore
    (yields : reader.Yields holds) :
    (Reader.ifMore reader).Yields fun found => ∀ value ∈ found, holds value := by
  apply Yields.after
  intro more
  cases more with
  | true =>
      refine yields.bind fun value isGood => .pure ?_
      simpa using isGood
  | false =>
      exact .pure nofun

theorem Yields.times
    (yields : reader.Yields holds) :
    ∀ count, (Reader.times reader count).Yields fun values => ∀ value ∈ values, holds value
  | 0 => .pure nofun
  | count + 1 =>
      yields.bind fun _ first => (Yields.times yields count).bind fun _ others =>
        .pure (List.forall_mem_cons.mpr ⟨first, others⟩)

theorem run_records
    (yields : reader.Yields holds)
    (limit : Nat)
    (window : Window) :
    ∀ value ∈ (window.run reader limit).records, holds value := by
  induction limit generalizing window with
  | zero =>
      exact nofun
  | succ limit inductionHypothesis =>
      rw [Window.run]
      split
      · exact nofun
      · cases read : reader window with
        | error fault =>
            exact nofun
        | ok outcome =>
            exact List.forall_mem_cons.mpr
              ⟨yields window _ _ read, inductionHypothesis outcome.2⟩

theorem Yields.every
    (yields : reader.Yields holds) :
    (Reader.every reader).Yields fun values => ∀ value ∈ values, holds value := by
  intro window values after read
  rw [Reader.every] at read
  split at read
  · cases read
    exact run_records yields window.remaining window
  · contradiction

end Reader

/-! ## Faults and findings -/

theorem Shortage.message_isUnbroken
    (shortage : Shortage) :
    IsUnbroken shortage.message := by
  have front : IsUnbroken "Buffer too short: expected at least " := .of_characters rfl
  have between : IsUnbroken " bytes, got " := .of_characters rfl
  unfold Shortage.message
  simp [front, between]

theorem Defect.message_isUnbroken
    (defect : Defect) :
    IsUnbroken defect.message := by
  unfold Defect.message
  cases defect with
  | qualityLength octets =>
      have front : IsUnbroken "EPS QoS of " := .of_characters rfl
      have back : IsUnbroken " octets, expected 1, 5, 9 or 13" := .of_characters rfl
      simp [front, back]
  | aggregateLength octets =>
      have front : IsUnbroken "APN-AMBR of " := .of_characters rfl
      have back : IsUnbroken " octets, expected 2, 4 or 6" := .of_characters rfl
      simp [front, back]
  | responseLength octets =>
      have front : IsUnbroken "RES of " := .of_characters rfl
      have back : IsUnbroken " octets, expected 4 to 16" := .of_characters rfl
      simp [front, back]
  | labelOverrun octets =>
      have front : IsUnbroken "APN label of " := .of_characters rfl
      have back : IsUnbroken " octets overruns the element" := .of_characters rfl
      simp [front, back]
  | reservedCoding scheme =>
      have front : IsUnbroken "reserved coding scheme " := .of_characters rfl
      simp [front]
  | remoteAddressType code =>
      have front : IsUnbroken "remote UE address type " := .of_characters rfl
      simp [front]
  | keyServerAddressType code =>
      have front : IsUnbroken "PKMF address type " := .of_characters rfl
      simp [front]
  | zeroLength =>
      exact .of_characters rfl

theorem Fault.message_isUnbroken
    (fault : Fault) :
    IsUnbroken fault.message := by
  unfold Fault.message
  cases fault with
  | tooShort shortage =>
      exact shortage.message_isUnbroken
  | lengthMismatch expected actual =>
      have front : IsUnbroken "Length mismatch: expected " := .of_characters rfl
      have between : IsUnbroken " bytes, got " := .of_characters rfl
      simp [front, between]
  | invalidValue defect =>
      have front : IsUnbroken "Invalid value: " := .of_characters rfl
      simp [front, defect.message_isUnbroken]

/-- A finding that cites nothing obeys the rules. -/
theorem DiagnosticKind.obeys_of_cites_nothing
    {kind : DiagnosticKind}
    (nothing : kind.cited = []) :
    kind.Obeys .decoded := by
  simp [DiagnosticKind.Obeys, nothing]

theorem DiagnosticKind.obeys_of_cites
    {kind : DiagnosticKind}
    {label : String}
    (unbroken : IsUnbroken label)
    (cites : kind.cited = [label]) :
    kind.Obeys .decoded := by
  simpa [DiagnosticKind.Obeys, cites] using unbroken

theorem Fault.malformed_obeys
    {label : String}
    (unbroken : IsUnbroken label)
    (fault : Fault) :
    (DiagnosticKind.malformedElement label fault.message).Obeys .decoded := by
  simp [DiagnosticKind.Obeys, DiagnosticKind.cited, unbroken, fault.message_isUnbroken]

theorem Fault.diagnosis_obeys
    {label : String}
    (unbroken : IsUnbroken label)
    (fault : Fault) :
    (fault.diagnosis label).Obeys .decoded := by
  cases fault with
  | invalidValue defect =>
      simp [diagnosis, DiagnosticKind.Obeys, DiagnosticKind.cited, unbroken,
        defect.message_isUnbroken]
  | _ =>
      exact DiagnosticKind.obeys_of_cites unbroken rfl

/-- What the findings cite obeys the rules. -/
def DiagnosticsObey (diagnostics : List Diagnostic) : Prop :=
  ∀ diagnostic ∈ diagnostics, diagnostic.kind.Obeys .decoded

theorem DiagnosticsObey.nil :
    DiagnosticsObey [] := by
  simp [DiagnosticsObey]

theorem DiagnosticsObey.sole
    {kind : DiagnosticKind}
    (obeys : kind.Obeys .decoded)
    (span : Span) :
    DiagnosticsObey [⟨kind, span⟩] := by
  simpa [DiagnosticsObey] using obeys

theorem DiagnosticsObey.append
    {first second : List Diagnostic}
    (front : DiagnosticsObey first)
    (back : DiagnosticsObey second) :
    DiagnosticsObey (first ++ second) :=
  List.forall_mem_append.mpr ⟨front, back⟩

namespace Reader

variable {holds : α → Prop} {reader : Reader α} {label : String}

theorem complaint_obeys
    (unbroken : IsUnbroken label)
    (run : RecordRun α) :
    DiagnosticsObey (run.complaint label) := by
  rw [RecordRun.complaint]
  split
  · exact .nil
  · exact .sole (Fault.diagnosis_obeys unbroken _) _

theorem Yields.upTo
    (yields : reader.Yields holds)
    (unbroken : IsUnbroken label)
    (limit : Nat) :
    (Reader.upTo limit label reader).Yields fun outcome =>
      (∀ value ∈ outcome.1, holds value) ∧ DiagnosticsObey outcome.2 := by
  intro window outcome after read
  cases read
  exact ⟨run_records yields limit window, complaint_obeys unbroken _⟩

theorem Yields.completeOnes
    (yields : reader.Yields holds)
    (unbroken : IsUnbroken label) :
    (Reader.completeOnes label reader).Yields fun outcome =>
      (∀ value ∈ outcome.1, holds value) ∧ DiagnosticsObey outcome.2 :=
  fun window => yields.upTo unbroken window.remaining window

end Reader

/-! ## Decoders -/

/-- A value and the findings about it obey the rules. -/
def Reported (outcome : Value × List Diagnostic) : Prop :=
  outcome.1.Obeys .decoded ∧ DiagnosticsObey outcome.2

/-- What a decoder hands back obeys the rules. -/
structure Reading.Obeys (reading : Reading) : Prop where
  value : ∀ value after, reading.outcome = .ok (value, after) → value.Obeys .decoded
  diagnostics : DiagnosticsObey reading.diagnostics

/-- The messages that the scope hands out obey the rules. -/
def Scope.NestsObeying (scope : Scope) : Prop :=
  ∀ carriage window message after,
    scope.nested carriage window = some (message, after) → message.Obeys .decoded

def OctetDecoder.Obeys (decode : OctetDecoder) : Prop :=
  ∀ scope window, scope.NestsObeying → (decode scope window).Obeys

theorem OctetDecoder.Obeys.of_yields
    {reader : Reader Value}
    (yields : reader.Yields (Value.Obeys .decoded)) :
    OctetDecoder.Obeys reader.decoder :=
  fun _ window _ => ⟨yields window, .nil⟩

theorem OctetDecoder.Obeys.of_reported
    {reader : Reader (Value × List Diagnostic)}
    (yields : reader.Yields Reported) :
    OctetDecoder.Obeys reader.reporting := by
  intro scope window _
  rw [Reader.reporting]
  cases read : reader window with
  | error fault =>
      exact ⟨nofun, .nil⟩
  | ok outcome =>
      obtain ⟨⟨value, diagnostics⟩, after⟩ := outcome
      obtain ⟨obeys, reported⟩ := yields window _ _ read
      refine ⟨?_, reported⟩
      rintro _ _ ⟨⟩
      exact obeys

def Decoder.Obeys : Decoder → Prop
  | .nibble decode => NibbleDecoder.Obeys decode
  | .octets decode => OctetDecoder.Obeys decode

/-! ## Walks -/

structure ElementSpec.Obeys (spec : ElementSpec) : Prop where
  label : IsHeading spec.label
  decoder : spec.decoder.Obeys

def Catalogue.Obeys (catalogue : Catalogue) : Prop :=
  ∀ spec ∈ catalogue, spec.Obeys

structure Walk.Obeys (walk : Walk) : Prop where
  elements : ∀ element ∈ walk.elements, element.Obeys .decoded
  diagnostics : DiagnosticsObey walk.diagnostics

theorem Walk.Obeys.prepend
    {walk : Walk}
    {element : Element}
    {diagnostics : List Diagnostic}
    (behind : walk.Obeys)
    (elementObeys : element.Obeys .decoded)
    (reported : DiagnosticsObey diagnostics) :
    (walk.prepend element diagnostics).Obeys where
  elements := List.forall_mem_cons.mpr ⟨elementObeys, behind.elements⟩
  diagnostics := reported.append behind.diagnostics

theorem Decoder.Obeys.nibble
    {decoder : Decoder}
    (obeys : decoder.Obeys)
    (nibble : UInt8) :
    (decoder.decodeNibble nibble).Obeys .decoded := by
  cases decoder with
  | nibble decode =>
      exact obeys nibble
  | octets decode =>
      trivial

theorem Decoder.Obeys.octets
    {decoder : Decoder}
    (obeys : decoder.Obeys)
    {scope : Scope}
    (nests : scope.NestsObeying)
    (body : Window) :
    (decoder.decodeOctets scope body).Obeys := by
  cases decoder with
  | octets decode =>
      exact obeys scope body nests
  | nibble decode =>
      exact OctetDecoder.Obeys.of_yields (.after fun octet => .pure (obeys _)) scope body nests

theorem Reading.Obeys.value_obeys
    {reading : Reading}
    (obeys : reading.Obeys)
    (body : Window) :
    (ElementSpec.valueOf reading body).Obeys .decoded := by
  rw [ElementSpec.valueOf]
  split
  · rename_i found
    exact obeys.value _ _ found
  · trivial

theorem Reading.Obeys.diagnostics_obey
    {reading : Reading}
    (obeys : reading.Obeys)
    {spec : ElementSpec}
    (unbroken : IsUnbroken spec.label)
    (body : Window) :
    DiagnosticsObey (spec.diagnosticsOf reading body) := by
  rw [ElementSpec.diagnosticsOf]
  split
  · exact obeys.diagnostics
  · exact obeys.diagnostics.append (.sole (Fault.diagnosis_obeys unbroken _) _)

theorem Walk.finish_obeys
    (window : Window) :
    (Walk.finish window).Obeys := by
  rw [Walk.finish]
  split
  · exact ⟨by simp, .nil⟩
  · exact ⟨by simp, .sole (DiagnosticKind.obeys_of_cites_nothing rfl) _⟩

/-- What a walk finds obeys the rules if the decoders of the catalogue keep to them. -/
theorem Catalogue.walk_obeys
    {catalogue : Catalogue}
    (obeys : catalogue.Obeys)
    {scope : Scope}
    (nests : scope.NestsObeying)
    (window : Window) :
    (catalogue.walk scope window).Obeys := by
  induction catalogue generalizing scope window with
  | nil =>
      exact Walk.finish_obeys window
  | cons spec specs inductionHypothesis =>
      obtain ⟨specObeys, others⟩ := List.forall_mem_cons.mp obeys
      have cites : IsUnbroken spec.label := specObeys.label.isUnbroken
      rw [walk]
      cases spec.format.frame window with
      | absent =>
          exact inductionHypothesis others nests window
      | missing =>
          exact ⟨by simp, .sole (DiagnosticKind.obeys_of_cites cites rfl) _⟩
      | overrun =>
          exact ⟨by simp, .sole (DiagnosticKind.obeys_of_cites cites rfl) _⟩
      | half nibble after =>
          refine Walk.Obeys.prepend (inductionHypothesis others nests after) ?_ .nil
          exact ⟨specObeys.label, specObeys.decoder.nibble nibble⟩
      | body body after =>
          have reading := specObeys.decoder.octets nests body
          have nestsBehind :
              Scope.NestsObeying { scope with
                containerType := (spec.decoder.decodeOctets scope body).containerType } :=
            nests
          refine Walk.Obeys.prepend (inductionHypothesis others nestsBehind after) ?_ ?_
          · exact ⟨specObeys.label, reading.value_obeys body⟩
          · exact reading.diagnostics_obey cites body

end LteNas
