import LteNas.Proofs.Message.Tree

namespace LteNas

/-!
# Nodes of one line

Numbers, networks, rates and ranges are written without a line feed.  So a node
is of one line when the texts of the message that stand in it are, and it begins
with a name of the message or with a heading.
-/

open Text

/-! ## What stands behind a label -/

@[simp] theorem Span.text_isUnbroken
    (span : Span) :
    IsUnbroken span.text := by
  have opening : IsUnbroken "[" := .of_characters rfl
  have between : IsUnbroken ".." := .of_characters rfl
  have closing : IsUnbroken "]" := .of_characters rfl
  simp [text, opening, between, closing]

@[simp] theorem Plmn.text_isUnbroken
    (plmn : Plmn) :
    IsUnbroken plmn.text := by
  have between : IsUnbroken "-" := .of_characters rfl
  simp [text, between]

@[simp] theorem TrackingArea.text_isUnbroken
    (area : TrackingArea) :
    IsUnbroken area.text := by
  have between : IsUnbroken "/0x" := .of_characters rfl
  simp [text, between]

@[simp] theorem BitRate.text_isUnbroken
    (rate : BitRate) :
    IsUnbroken rate.text := by
  have between : IsUnbroken " " := .of_characters rfl
  have unit_isUnbroken : IsUnbroken rate.unit.text := by
    cases rate.unit <;> exact .of_characters rfl
  simp [text, between, unit_isUnbroken]

@[simp] theorem Timer.text_isUnbroken
    (setting : Timer) :
    IsUnbroken setting.text := by
  cases setting with
  | seconds count =>
      have unit : IsUnbroken " s" := .of_characters rfl
      simp [text, unit]
  | deactivated =>
      exact .of_characters rfl

@[simp] theorem octetText_isUnbroken
    (octets : List UInt8) :
    IsUnbroken (octetText octets) := by
  rw [octetText]
  split
  · exact .of_characters rfl
  · exact isUnbroken_hex octets

@[simp] theorem HeaderKind.text_isUnbroken
    (kind : HeaderKind) :
    IsUnbroken kind.text := by
  cases kind with
  | reserved headerType =>
      have front : IsUnbroken "Reserved (" := .of_characters rfl
      have back : IsUnbroken ")" := .of_characters rfl
      simp [text, front, back]
  | _ =>
      exact .of_characters rfl

theorem DiagnosticKind.text_isUnbroken
    {kind : DiagnosticKind}
    (cited : ∀ text ∈ kind.cited, IsUnbroken text) :
    IsUnbroken kind.text := by
  unfold DiagnosticKind.text
  cases kind with
  | missingMandatory label =>
      have front : IsUnbroken "Missing mandatory element: " := .of_characters rfl
      simpa [front, DiagnosticKind.cited] using cited
  | unknownMessageType code =>
      have front : IsUnbroken "Unknown message type 0x" := .of_characters rfl
      simp [front]
  | unknownIdentity code =>
      have front : IsUnbroken "Unknown type of identity " := .of_characters rfl
      simp [front]
  | unknownTypeOfList code =>
      have front : IsUnbroken "Unknown type of list " := .of_characters rfl
      simp [front]
  | wrongNumberOfElements declared found =>
      have front : IsUnbroken "Wrong number of elements: " := .of_characters rfl
      have between : IsUnbroken " declared, " := .of_characters rfl
      have back : IsUnbroken " found" := .of_characters rfl
      simp [front, between, back]
  | extraneousData =>
      exact .of_characters rfl
  | wrongDiscriminator code =>
      have front : IsUnbroken "Wrong protocol discriminator " := .of_characters rfl
      simp [front]
  | outOfBounds label =>
      have front : IsUnbroken "Length exceeds buffer in " := .of_characters rfl
      simpa [front, DiagnosticKind.cited] using cited
  | decipherFailed =>
      exact .of_characters rfl
  | malformedElement label reason =>
      have front : IsUnbroken "Malformed " := .of_characters rfl
      have between : IsUnbroken ": " := .of_characters rfl
      simpa [front, between, DiagnosticKind.cited] using cited
  | nestingLimit limit =>
      have front : IsUnbroken "Nesting depth limit of " := .of_characters rfl
      have back : IsUnbroken " reached" := .of_characters rfl
      simp [front, back]

/-- The texts of a message are of one line, and its names have a property. -/
def Rules.oneLine (good : String → Prop) : Rules where
  name := good
  word := IsUnbroken
  text := IsUnbroken
  envelope := fun _ => True

section OneLine

variable {good : String → Prop}

theorem Diagnostic.text_isUnbroken
    {diagnostic : Diagnostic}
    (obeys : diagnostic.kind.Obeys (.oneLine good)) :
    IsUnbroken diagnostic.text := by
  have kind_isUnbroken := DiagnosticKind.text_isUnbroken obeys
  have between : IsUnbroken " " := .of_characters rfl
  simp [text, kind_isUnbroken, between]

theorem Value.line_isUnbroken
    {value : Value}
    (leaf : value.IsLeaf)
    (obeys : value.Obeys (.oneLine good)) :
    IsUnbroken value.line := by
  cases value with
  | fields | list | message =>
      exact leaf.elim
  | number count =>
      exact isUnbroken_repr count
  | flag isSet =>
      cases isSet <;> exact .of_characters rfl
  | coded code meaning =>
      have meaning_isUnbroken : IsUnbroken meaning := obeys
      have opening : IsUnbroken " (" := .of_characters rfl
      have closing : IsUnbroken ")" := .of_characters rfl
      simp [line, meaning_isUnbroken, opening, closing]
  | digits characters | text characters =>
      exact obeys
  | plmn plmn =>
      exact plmn.text_isUnbroken
  | trackingArea area =>
      exact area.text_isUnbroken
  | bitRate rate =>
      exact rate.text_isUnbroken
  | timer setting =>
      exact setting.text_isUnbroken
  | octets content =>
      exact octetText_isUnbroken content
  | handoff protocol content =>
      have protocol_isUnbroken : IsUnbroken protocol := obeys
      have opening : IsUnbroken "[" := .of_characters rfl
      have closing : IsUnbroken "] " := .of_characters rfl
      simp [line, protocol_isUnbroken, opening, closing]
  | ciphered content =>
      have front : IsUnbroken "ciphered, " := .of_characters rfl
      have back : IsUnbroken " octets" := .of_characters rfl
      simp [line, front, back]

/-! ## Headings -/

theorem detail_isHeading
    {text : String}
    (unbroken : IsUnbroken text) :
    IsHeading (": " ++ text) :=
  IsHeading.append (.of_characters rfl) unbroken

theorem rangeText_isHeading
    (span : Span) :
    IsHeading (" " ++ span.text) := by
  have opening : IsHeading "[" := .of_characters rfl
  have between : IsUnbroken ".." := .of_characters rfl
  have closing : IsUnbroken "]" := .of_characters rfl
  apply IsHeading.afterSpace
  rw [Span.text]
  exact (((opening.append (isUnbroken_repr _)).append between).append (isUnbroken_repr _)).append
    closing

theorem itemLabel_isHeading
    (index : Nat) :
    IsHeading s!"[{index}]" := by
  have opening : IsHeading "[" := .of_characters rfl
  have closing : IsUnbroken "]" := .of_characters rfl
  exact (opening.append (isUnbroken_repr index)).append closing

theorem countText_isHeading
    (count : Nat) :
    IsHeading s!": {count} items" := by
  have front : IsHeading ": " := .of_characters rfl
  have back : IsUnbroken " items" := .of_characters rfl
  exact (front.append (isUnbroken_repr count)).append back

theorem Envelope.lines_areHeadings
    (envelope : Envelope) :
    ∀ line ∈ envelope.lines, IsHeading line := by
  have kind_isHeading : IsHeading s!"Security header type: {envelope.kind.text}" :=
    IsHeading.append (.of_characters rfl) envelope.kind.text_isUnbroken
  have code_isHeading (code : Nat) :
      IsHeading ("Message authentication code: 0x" ++ hexadecimal 8 code) :=
    IsHeading.append (.of_characters rfl) (isUnbroken_hexadecimal 8 code)
  have number_isHeading (number : UInt8) :
      IsHeading s!"Sequence number: {number.toNat}" :=
    IsHeading.append (.of_characters rfl) (isUnbroken_repr number.toNat)
  intro line member
  rw [lines] at member
  split at member
  · simp only [List.mem_append, List.mem_singleton, Option.mem_toList, Option.map_eq_some_iff]
      at member
    obtain (rfl | ⟨code, -, rfl⟩) | ⟨number, -, rfl⟩ := member
    · exact kind_isHeading
    · exact code_isHeading code
    · exact number_isHeading number
  · contradiction

theorem Message.details_areHeadings
    (message : Message) :
    ∀ detail ∈ message.details, IsHeading detail := by
  have bearer_isHeading (identity : UInt8) :
      IsHeading s!"EPS bearer identity: {identity.toNat}" :=
    IsHeading.append (.of_characters rfl) (isUnbroken_repr identity.toNat)
  have transaction_isHeading (identity : UInt8) :
      IsHeading s!"Procedure transaction identity: {identity.toNat}" :=
    IsHeading.append (.of_characters rfl) (isUnbroken_repr identity.toNat)
  intro detail member
  simp only [details, List.mem_append, Option.mem_toList, Option.map_eq_some_iff] at member
  obtain (inEnvelope | ⟨identity, -, rfl⟩) | ⟨identity, -, rfl⟩ := member
  · cases envelope_eq : message.envelope with
    | none =>
        rw [envelope_eq] at inEnvelope
        contradiction
    | some envelope =>
        rw [envelope_eq] at inEnvelope
        exact envelope.lines_areHeadings detail inEnvelope
  · exact bearer_isHeading identity
  · exact transaction_isHeading identity

theorem Protocol.name_isHeading
    (protocol : Protocol) :
    IsHeading protocol.name := by
  cases protocol <;> exact .of_characters rfl

/-- What stands behind the name of a message is nothing, or it is in brackets. -/
theorem typeText_isHeading
    (protocol : Option Protocol)
    (messageType : Option UInt8) :
    typeText (protocol.map Protocol.name) messageType = "" ∨
      IsHeading (typeText (protocol.map Protocol.name) messageType) := by
  have opening : IsHeading " (" := .of_characters rfl
  have between : IsUnbroken ", " := .of_characters rfl
  have closing : IsUnbroken ")" := .of_characters rfl
  have code_isUnbroken (code : UInt8) : IsUnbroken ("0x" ++ hexadecimal 2 code.toNat) :=
    isUnbroken_append.mpr ⟨.of_characters rfl, isUnbroken_hexadecimal 2 code.toNat⟩
  cases protocol with
  | none =>
      cases messageType with
      | none =>
          exact .inl rfl
      | some code =>
          exact .inr ((opening.append (code_isUnbroken code)).append closing)
  | some protocol =>
      have named := opening.append protocol.name_isHeading.isUnbroken
      cases messageType with
      | none =>
          exact .inr (named.append closing)
      | some code =>
          exact .inr (((named.append between).append (code_isUnbroken code)).append closing)

theorem Message.headline_holds
    {message : Message}
    (headwise : IsHeadwise good)
    (names : ∀ text ∈ message.name, good text) :
    good message.headline := by
  have name_holds : good (nameOrUnknown message.name) := by
    cases name_eq : message.name with
    | none =>
        exact headwise.of_heading (.of_characters rfl)
    | some name =>
        exact names name name_eq
  rw [headline]
  rcases typeText_isHeading (message.discriminator.bind Protocol.ofDiscriminator?)
    message.messageType with nothing | heading
  · rw [nothing, String.append_empty]
    exact name_holds
  · exact headwise.append name_holds heading

/-! ## How nodes begin -/

/-- The text of a node has a property, unless the node tells a finding on one line. -/
inductive Node.IsProper (good : String → Prop) : Node → Prop where
  | plain {level : Nat} {text : String}
      (holds : good text) :
      IsProper good (.plain level text)
  | telling {level : Nat} {diagnostic : Diagnostic}
      (unbroken : IsUnbroken diagnostic.text) :
      IsProper good (.telling level diagnostic)

/-- All nodes are proper. -/
def AllProper (good : String → Prop) (nodes : List Node) : Prop :=
  ∀ node ∈ nodes, node.IsProper good

theorem AllProper.append
    {first second : List Node}
    (front : AllProper good first)
    (back : AllProper good second) :
    AllProper good (first ++ second) :=
  List.forall_mem_append.mpr ⟨front, back⟩

theorem AllProper.cons
    {text : String}
    {nodes : List Node}
    (holds : good text)
    (behind : AllProper good nodes)
    (level : Nat) :
    AllProper good (.plain level text :: nodes) :=
  List.forall_mem_cons.mpr ⟨.plain holds, behind⟩

theorem Value.nodesAfter_proper_of_leaf
    (headwise : IsHeadwise good)
    {label : String}
    (labelHolds : good label)
    {value : Value}
    (leaf : value.IsLeaf)
    (obeys : value.Obeys (.oneLine good))
    (level : Nat) :
    AllProper good (value.nodesAfter label level) := by
  rw [nodesAfter_of_leaf leaf]
  refine AllProper.cons ?_ (by simp [AllProper]) level
  exact headwise.append labelHolds (detail_isHeading (line_isUnbroken leaf obeys))

theorem Message.headNodes_proper
    {message : Message}
    (headwise : IsHeadwise good)
    (names : ∀ text ∈ message.name, good text)
    (level : Nat) :
    AllProper good (message.headNodes level) := by
  refine AllProper.cons (headline_holds headwise names) ?_ level
  intro node member
  obtain ⟨detail, detailMember, rfl⟩ := List.mem_map.mp member
  exact .plain (headwise.of_heading (message.details_areHeadings detail detailMember))

-- the recursion is that of the nodes: from a message to its values and back
mutual

theorem Value.nodesAfter_proper
    (headwise : IsHeadwise good)
    {label : String}
    (labelHolds : good label)
    (level : Nat) :
    {value : Value} → value.Obeys (.oneLine good) → AllProper good (value.nodesAfter label level)
  | .fields parts, obeys =>
      .cons labelHolds (fieldNodes_proper headwise (level + 1) obeys) level
  | .list items, obeys =>
      .cons (headwise.append labelHolds (countText_isHeading items.length))
        (itemNodes_proper headwise (level + 1) 0 obeys) level
  | .message carried, obeys =>
      .cons labelHolds (Message.nodes_proper headwise (level + 1) obeys) level
  | .number _, obeys | .flag _, obeys | .coded _ _, obeys | .digits _, obeys | .text _, obeys
  | .plmn _, obeys | .trackingArea _, obeys | .bitRate _, obeys | .timer _, obeys
  | .octets _, obeys | .handoff _ _, obeys | .ciphered _, obeys =>
      Value.nodesAfter_proper_of_leaf headwise labelHolds (by trivial) obeys level

theorem Message.nodes_proper
    (headwise : IsHeadwise good)
    (level : Nat) :
    {message : Message} → message.Obeys (.oneLine good) → AllProper good (message.nodes level)
  | ⟨_, _, _, _, _, _, elements, diagnostics⟩, ⟨names, _, elementsObey, diagnosticsObey⟩ => by
      rw [Message.nodes]
      refine AllProper.append (.append (Message.headNodes_proper headwise names level) ?_) ?_
      · exact elementNodes_proper headwise (level + 1) elementsObey
      · intro node member
        obtain ⟨diagnostic, diagnosticMember, rfl⟩ := List.mem_map.mp member
        exact .telling (Diagnostic.text_isUnbroken (diagnosticsObey diagnostic diagnosticMember))

theorem elementNodes_proper
    (headwise : IsHeadwise good)
    (level : Nat) :
    {elements : List Element} → ElementsObey (.oneLine good) elements →
      AllProper good (elementNodes level elements)
  | [], _ => by
      simp [elementNodes, AllProper]
  | ⟨_, label, span, value⟩ :: elements, ⟨⟨labelHolds, obeys⟩, others⟩ => by
      have labelled : good (label ++ (" " ++ span.text)) :=
        headwise.append labelHolds (rangeText_isHeading span)
      rw [elementNodes]
      exact .append (Value.nodesAfter_proper headwise labelled level obeys)
        (elementNodes_proper headwise level others)

theorem fieldNodes_proper
    (headwise : IsHeadwise good)
    (level : Nat) :
    {fields : List Field} → FieldsObey (.oneLine good) fields →
      AllProper good (fieldNodes level fields)
  | [], _ => by
      simp [fieldNodes, AllProper]
  | ⟨name, value⟩ :: fields, ⟨⟨nameHolds, obeys⟩, others⟩ => by
      rw [fieldNodes]
      exact .append (Value.nodesAfter_proper headwise nameHolds level obeys)
        (fieldNodes_proper headwise level others)

theorem itemNodes_proper
    (headwise : IsHeadwise good)
    (level index : Nat) :
    {items : List Value} → ItemsObey (.oneLine good) items →
      AllProper good (itemNodes level index items)
  | [], _ => by
      simp [itemNodes, AllProper]
  | value :: items, ⟨obeys, others⟩ => by
      have labelled : good s!"[{index}]" :=
        headwise.of_heading (itemLabel_isHeading index)
      rw [itemNodes]
      exact .append (Value.nodesAfter_proper headwise labelled level obeys)
        (itemNodes_proper headwise level (index + 1) others)

end

end OneLine

end LteNas
