import LteNas.Proofs.Element.Regular
import LteNas.Proofs.Element.Visit

namespace LteNas

/-!
# What decoders consult

Besides its octets a decoder consults little: the protocol of user data, what
the message around it has established, and the message that its octets hold.  In
scopes that agree in this a walk comes to the same.  Of the messages only those
have to agree that the walk came upon in the first scope.
-/

/-! ## Readings -/

/-- Two readings are the same, but for the windows behind their values. -/
inductive Reading.Same : Reading → Reading → Prop where
  | error {fault : Fault} {diagnostics : List Diagnostic} {containerType : Option UInt8} :
      Same ⟨.error fault, diagnostics, containerType⟩ ⟨.error fault, diagnostics, containerType⟩
  | ok {value : Value} {near far : Window} {diagnostics : List Diagnostic}
      {containerType : Option UInt8} :
      Same ⟨.ok (value, near), diagnostics, containerType⟩
        ⟨.ok (value, far), diagnostics, containerType⟩

namespace Reading.Same

variable {near far : Reading}

protected theorem refl
    (reading : Reading) :
    Reading.Same reading reading := by
  rcases reading with ⟨_ | ⟨value, after⟩, diagnostics, containerType⟩
  · exact .error
  · exact .ok

theorem valueOf_eq
    (same : Reading.Same near far)
    (body : Window) :
    ElementSpec.valueOf far body = ElementSpec.valueOf near body := by
  cases same <;> rfl

theorem diagnosticsOf_eq
    (same : Reading.Same near far)
    (entry : ElementSpec)
    (body : Window) :
    entry.diagnosticsOf far body = entry.diagnosticsOf near body := by
  cases same <;> rfl

theorem containerType_eq
    (same : Reading.Same near far) :
    far.containerType = near.containerType := by
  cases same <;> rfl

end Reading.Same

/-- What a decoder reports is among the diagnostics of its element. -/
theorem ElementSpec.mem_diagnosticsOf
    {reading : Reading}
    {body : Window}
    {diagnostic : Diagnostic}
    (entry : ElementSpec)
    (member : diagnostic ∈ reading.diagnostics) :
    diagnostic ∈ entry.diagnosticsOf reading body := by
  rw [diagnosticsOf]
  split
  · exact member
  · exact List.mem_append_left _ member

/-! ## Scopes -/

section Scopes

variable {near far : Scope}

/-- The scopes tell decoders the same, but for the messages that are nested in them. -/
structure Scope.Alike (near far : Scope) : Prop where
  userData_eq : far.config.userData = near.config.userData
  nonIpProtocol_eq : far.config.nonIpProtocol = near.config.nonIpProtocol
  partiallyCiphered_eq : far.partiallyCiphered = near.partiallyCiphered
  containerType_eq : far.containerType = near.containerType

theorem Scope.Alike.userDataProtocol?_eq
    (alike : near.Alike far) :
    ElementValue.userDataProtocol? far.config = ElementValue.userDataProtocol? near.config := by
  rw [ElementValue.userDataProtocol?, ElementValue.userDataProtocol?, alike.userData_eq,
    alike.nonIpProtocol_eq]

/--
What is nested in the first scope is nested in the second one: the messages of a
kind that are entered, and the refusals that may be reported.
-/
structure Scope.Shares
    (near far : Scope)
    (carriable : Message → Prop)
    (reportable : Diagnostic → Prop) :
    Prop where
  entered {carriage : Carriage} {window after : Window} {message : Message} :
    near.nested carriage window = some (message, after) → carriable message →
      ∃ farAfter, far.nested carriage window = some (message, farAfter)
  refused {carriage : Carriage} {window : Window} :
    near.nested carriage window = none →
      reportable ⟨.nestingLimit near.config.maxNestingDepth, window.remainingSpan⟩ →
        far.nested carriage window = none ∧
          far.config.maxNestingDepth = near.config.maxNestingDepth

end Scopes

/-- The message of the reading is of a kind, and so are the findings of the reading. -/
structure Reading.ConfinedTo
    (reading : Reading)
    (carriable : Message → Prop)
    (reportable : Diagnostic → Prop) :
    Prop where
  carries {message : Message} {after : Window} :
    reading.outcome = .ok (.message message, after) → carriable message
  reports : ∀ diagnostic ∈ reading.diagnostics, reportable diagnostic

/-- The messages that the elements of the walk carry are of a kind, and so are its findings. -/
structure Walk.ConfinedTo
    (walk : Walk)
    (carriable : Message → Prop)
    (reportable : Diagnostic → Prop) :
    Prop where
  carries : ∀ element ∈ walk.elements, ∀ message,
    element.value.Carries message → carriable message
  reports : ∀ diagnostic ∈ walk.diagnostics, reportable diagnostic

section Sharing

variable {near far : Scope} {carriable : Message → Prop} {reportable : Diagnostic → Prop}

namespace Walk.ConfinedTo

variable {walk : Walk} {element : Element} {diagnostics : List Diagnostic}

theorem of_prepend
    (confined : (walk.prepend element diagnostics).ConfinedTo carriable reportable) :
    walk.ConfinedTo carriable reportable where
  carries := (List.forall_mem_cons.mp confined.carries).2
  reports := (List.forall_mem_append.mp confined.reports).2

/-- The reading of a first element is confined as the walk is. -/
theorem reading
    {entry : ElementSpec}
    {reading : Reading}
    {body : Window}
    {span : Span}
    (confined :
      (walk.prepend (entry.element span (ElementSpec.valueOf reading body))
        (entry.diagnosticsOf reading body)).ConfinedTo carriable reportable) :
    reading.ConfinedTo carriable reportable where
  carries outcome_eq := by
    apply confined.carries _ List.mem_cons_self
    simp only [ElementSpec.element, ElementSpec.valueOf, outcome_eq]
    exact .message
  reports diagnostic member := by
    apply confined.reports
    exact List.mem_append_left _ (entry.mem_diagnosticsOf member)

end Walk.ConfinedTo

open ElementValue

theorem Scope.Shares.carriedMessage_same
    {carriage : Carriage}
    {body : Window}
    (shares : near.Shares far carriable reportable)
    (alike : near.Alike far)
    (confined : (carriedMessage carriage near body).ConfinedTo carriable reportable) :
    Reading.Same (carriedMessage carriage near body) (carriedMessage carriage far body) := by
  cases entered : near.nested carriage body with
  | none =>
      simp only [carriedMessage, entered] at confined
      obtain ⟨refused, limit_eq⟩ :=
        shares.refused entered (confined.reports _ (List.mem_singleton_self _))
      simp only [carriedMessage, entered, refused, limit_eq, alike.containerType_eq]
      exact .ok
  | some inner =>
      obtain ⟨message, after⟩ := inner
      simp only [carriedMessage, entered] at confined
      obtain ⟨farAfter, farEntered⟩ := shares.entered entered (confined.carries rfl)
      simp only [carriedMessage, entered, farEntered, alike.containerType_eq]
      exact .ok

/-- A regular decoder comes to the same in scopes that are alike and share what it enters. -/
theorem OctetDecoder.Regular.same
    {decode : OctetDecoder}
    {body : Window}
    (regular : OctetDecoder.Regular decode)
    (alike : near.Alike far)
    (shares : near.Shares far carriable reportable)
    (confined : (decode near body).ConfinedTo carriable reportable) :
    Reading.Same (decode near body) (decode far body) := by
  induction regular with
  | @reading reader isLocal =>
      simp only [Reader.reporting, alike.containerType_eq]
      exact .refl _
  | carried carriage =>
      exact shares.carriedMessage_same alike confined
  | session =>
      simp only [sessionMessage, alike.partiallyCiphered_eq, alike.containerType_eq] at confined ⊢
      split
      · exact .refl _
      · rename_i readable
        rw [if_neg readable] at confined
        exact shares.carriedMessage_same alike confined
  | containerType =>
      simp only [genericContainerType, alike.containerType_eq]
      exact .refl _
  | container =>
      simp only [genericContainer, handedTo, uninterpreted, Reader.decoder, alike.containerType_eq]
      exact .refl _
  | userData =>
      simp only [ElementValue.userData, handedTo, uninterpreted, Reader.decoder,
        alike.containerType_eq, alike.userDataProtocol?_eq]
      exact .refl _

theorem Decoder.Regular.same
    {decoder : Decoder}
    {body : Window}
    (regular : decoder.Regular)
    (alike : near.Alike far)
    (shares : near.Shares far carriable reportable)
    (confined : (decoder.decodeOctets near body).ConfinedTo carriable reportable) :
    Reading.Same (decoder.decodeOctets near body) (decoder.decodeOctets far body) := by
  cases decoder with
  | nibble decode =>
      simp only [decodeOctets, Reader.decoder, alike.containerType_eq]
      exact .refl _
  | octets decode =>
      exact OctetDecoder.Regular.same regular alike shares confined

/-! ## Walks -/

/-- A walk comes to the same in scopes that are alike and share what it enters. -/
theorem Catalogue.walk_same
    {catalogue : Catalogue}
    {window : Window}
    (regular : catalogue.Regular)
    (alike : near.Alike far)
    (shares : near.Shares far carriable reportable)
    (confined : (Catalogue.walk near window catalogue).ConfinedTo carriable reportable) :
    Catalogue.walk far window catalogue = Catalogue.walk near window catalogue := by
  induction catalogue generalizing near far window with
  | nil =>
      rfl
  | cons entry entries inductionHypothesis =>
      obtain ⟨entryRegular, entriesRegular⟩ := Catalogue.regular_cons.mp regular
      rw [Catalogue.walk] at confined
      rw [Catalogue.walk, Catalogue.walk]
      cases framing : entry.format.frame window with
      | absent =>
          rw [framing] at confined
          exact inductionHypothesis entriesRegular alike shares confined
      | missing =>
          rfl
      | overrun =>
          rfl
      | half nibble after =>
          rw [framing] at confined
          simp only [inductionHypothesis entriesRegular alike shares confined.of_prepend]
      | body body after =>
          rw [framing] at confined
          have same := entryRegular.same alike shares confined.reading
          -- the scopes behind the value agree in the type that it may have announced
          have behindAlike :
              (entry.scopeBehind near body).Alike (entry.scopeBehind far body) :=
            ⟨alike.userData_eq, alike.nonIpProtocol_eq, alike.partiallyCiphered_eq,
              same.containerType_eq⟩
          have behindShares :
              (entry.scopeBehind near body).Shares (entry.scopeBehind far body)
                carriable reportable :=
            ⟨shares.entered, shares.refused⟩
          have behind :
              Catalogue.walk (entry.scopeBehind far body) after entries =
                Catalogue.walk (entry.scopeBehind near body) after entries :=
            inductionHypothesis entriesRegular behindAlike behindShares confined.of_prepend
          simp only [same.valueOf_eq, same.diagnosticsOf_eq]
          exact congrArg (Walk.prepend · _ _) behind

end Sharing

end LteNas
