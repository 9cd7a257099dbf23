import LteNas.Proofs.Element.Regular

namespace LteNas

/-!
# Decoders and walks further on

The same octets are decoded twice, further on and perhaps deeper inside other
messages, in two scopes that differ in nothing but the levels.  Every regular
decoder then finds the same, displaced, and among the octets that it was given;
so does every walk over regular decoders.
-/

/-- The far message is the near one, displaced, and the near one lies in a range. -/
structure Message.Agree
    (move : Displacement)
    (span : Span)
    (near far : Message) :
    Prop where
  within : near.Within span
  far_eq : far = near.displace move

/-- Two scopes agree but for the levels, and so do the messages that are nested in them. -/
structure Scope.Aligned
    (move : Displacement)
    (near far : Scope) :
    Prop where
  key_eq : far.key = near.key
  direction_eq : far.direction = near.direction
  config_eq :
    far.config =
      { near.config with maxNestingDepth := near.config.maxNestingDepth + move.levels }
  partiallyCiphered_eq : far.partiallyCiphered = near.partiallyCiphered
  containerType_eq : far.containerType = near.containerType
  nested (carriage : Carriage) (window : Window) :
    Option.Rel (fun message other => Message.Agree move window.remainingSpan message.1 other.1)
      (near.nested carriage window) (far.nested carriage (window.displace move))

/-- Two outcomes agree: the same fault, or a value in a range and the same one displaced. -/
inductive Reading.OutcomesAgree
    (move : Displacement)
    (span : Span) :
    Except Fault (Value × Window) → Except Fault (Value × Window) → Prop where
  | error {fault : Fault} :
      OutcomesAgree move span (.error fault) (.error fault)
  | ok {value : Value} {near far : Window}
      (within : value.Within span) :
      OutcomesAgree move span (.ok (value, near)) (.ok (value.displace move, far))

theorem Reading.OutcomesAgree.plain
    {move : Displacement}
    {span : Span}
    {value : Value}
    {near far : Window}
    (plain : value.IsPlain) :
    OutcomesAgree move span (.ok (value, near)) (.ok (value, far)) := by
  have moved :
      OutcomesAgree move span (.ok (value, near)) (.ok (value.displace move, far)) :=
    .ok (plain.within span)
  rwa [plain.displace_eq] at moved

/-- Two readings agree in the range of the body that was read. -/
structure Reading.Agree
    (move : Displacement)
    (span : Span)
    (near far : Reading) :
    Prop where
  outcomes : OutcomesAgree move span near.outcome far.outcome
  diagnostics_eq : far.diagnostics = near.diagnostics.map (Diagnostic.displace move)
  within : DiagnosticsWithin span near.diagnostics
  containerType_eq : far.containerType = near.containerType

/-! ## Decoders -/

/-- The octets of a body, and the same octets further on. -/
theorem Window.sees_displace
    (body : Window)
    (move : Displacement) :
    Site.Sees ⟨body.remainingSpan, move⟩ body (body.displace move) where
  start_le := Nat.le_refl _
  stop_le := Nat.le_refl _
  far_eq := rfl

theorem Window.remainingSpan_displace
    (window : Window)
    (move : Displacement) :
    (window.displace move).remainingSpan = window.remainingSpan.displace move :=
  (window.moved_displace move).remainingSpan_eq

theorem Window.remainingSpan_within_self
    (window : Window) :
    window.remainingSpan.Within window.remainingSpan :=
  .refl window.position_le_stop

section Decoders

variable {move : Displacement} {near far : Scope}

theorem Reader.reporting_agree
    {reader : Reader (Value × List Diagnostic)}
    (isLocal : ∀ site : Site, reader.Local site (site.Reporting Value.IsPlain) reader)
    (aligned : near.Aligned move far)
    (body : Window) :
    Reading.Agree move body.remainingSpan
      (reader.reporting near body) (reader.reporting far (body.displace move)) := by
  have agree := isLocal _ _ _ (body.sees_displace move)
  simp only [Reader.reporting, aligned.containerType_eq]
  generalize reader body = nearOutcome, reader (body.displace move) = farOutcome at agree ⊢
  cases agree with
  | error =>
      exact ⟨.error, rfl, by simp [DiagnosticsWithin], rfl⟩
  | ok reporting _ =>
      obtain ⟨same, plain, reported⟩ := reporting
      refine ⟨?_, reported.far_eq, reported.within, rfl⟩
      simp only [same]
      exact .plain plain

theorem Reader.decoder_agree
    {reader : Reader Value}
    (steady : ∀ site, reader.Steady site Value.IsPlain)
    (aligned : near.Aligned move far)
    (body : Window) :
    Reading.Agree move body.remainingSpan
      (reader.decoder near body) (reader.decoder far (body.displace move)) := by
  rw [Reader.decoder_eq_reporting]
  refine Reader.reporting_agree (fun site => ?_) aligned body
  exact (steady site).bind fun value plain => .pure ⟨rfl, plain, .nil⟩

namespace ElementValue

open Reader

theorem handedTo_agree
    (aligned : near.Aligned move far)
    (protocol : String)
    (body : Window) :
    Reading.Agree move body.remainingSpan
      (handedTo protocol near body) (handedTo protocol far (body.displace move)) := by
  refine decoder_agree (fun site => ?_) aligned body
  exact rest_steady.bind fun _ _ => .pure ⟨rfl, trivial⟩

theorem uninterpreted_agree
    (aligned : near.Aligned move far)
    (body : Window) :
    Reading.Agree move body.remainingSpan
      (uninterpreted near body) (uninterpreted far (body.displace move)) := by
  refine decoder_agree (fun site => ?_) aligned body
  exact rest_steady.bind fun _ _ => .pure ⟨rfl, trivial⟩

theorem carriedMessage_agree
    (aligned : near.Aligned move far)
    (carriage : Carriage)
    (body : Window) :
    Reading.Agree move body.remainingSpan
      (carriedMessage carriage near body)
      (carriedMessage carriage far (body.displace move)) := by
  have nested := aligned.nested carriage body
  simp only [carriedMessage]
  generalize near.nested carriage body = nearNested,
    far.nested carriage (body.displace move) = farNested at nested ⊢
  cases nested with
  | none =>
      refine ⟨.ok (Value.IsPlain.within _ trivial), ?_, ?_, aligned.containerType_eq⟩
      · simp [aligned.config_eq, Diagnostic.displace, DiagnosticKind.displace,
          Window.remainingSpan_displace]
      · simpa [DiagnosticsWithin] using body.remainingSpan_within_self
  | some agree =>
      rename_i message other
      refine ⟨?_, rfl, by simp [DiagnosticsWithin], aligned.containerType_eq⟩
      simp only [agree.far_eq]
      refine .ok ?_
      rw [Value.Within]
      exact agree.within

theorem sessionMessage_agree
    (aligned : near.Aligned move far)
    (body : Window) :
    Reading.Agree move body.remainingSpan
      (sessionMessage near body) (sessionMessage far (body.displace move)) := by
  have peek_eq : (body.displace move).peek? = body.peek? := by
    rfl
  simp only [sessionMessage, aligned.partiallyCiphered_eq, peek_eq]
  split
  · refine ⟨.ok trivial, ?_, ?_, aligned.containerType_eq⟩
    · simp [Diagnostic.displace, DiagnosticKind.displace, Window.remainingSpan_displace]
    · simpa [DiagnosticsWithin] using body.remainingSpan_within_self
  · exact carriedMessage_agree aligned .bare body

theorem genericContainerType_agree
    (aligned : near.Aligned move far)
    (body : Window) :
    Reading.Agree move body.remainingSpan
      (genericContainerType near body) (genericContainerType far (body.displace move)) := by
  have agree := soleOctet_steady _ _ (body.sees_displace move)
  simp only [genericContainerType, aligned.containerType_eq]
  generalize soleOctet body = nearOutcome, soleOctet (body.displace move) = farOutcome
    at agree ⊢
  cases agree with
  | error =>
      exact ⟨.error, rfl, by simp [DiagnosticsWithin], rfl⟩
  | ok values _ =>
      obtain ⟨rfl, -⟩ := values
      exact ⟨.ok trivial, rfl, by simp [DiagnosticsWithin], rfl⟩

theorem genericContainer_agree
    (aligned : near.Aligned move far)
    (body : Window) :
    Reading.Agree move body.remainingSpan
      (genericContainer near body) (genericContainer far (body.displace move)) := by
  have protocol_eq :
      far.containerType.bind containerProtocol? = near.containerType.bind containerProtocol? := by
    rw [aligned.containerType_eq]
  rw [genericContainer, genericContainer, protocol_eq]
  cases near.containerType.bind containerProtocol? with
  | none =>
      exact uninterpreted_agree aligned body
  | some protocol =>
      exact handedTo_agree aligned protocol body

theorem userData_agree
    (aligned : near.Aligned move far)
    (body : Window) :
    Reading.Agree move body.remainingSpan
      (userData near body) (userData far (body.displace move)) := by
  have protocol_eq : userDataProtocol? far.config = userDataProtocol? near.config := by
    rw [aligned.config_eq]
    rfl
  rw [userData, userData, protocol_eq]
  cases userDataProtocol? near.config with
  | none =>
      exact uninterpreted_agree aligned body
  | some protocol =>
      exact handedTo_agree aligned protocol body

end ElementValue

open ElementValue in
/-- A regular decoder finds the same further on. -/
theorem OctetDecoder.Regular.agree
    {decode : OctetDecoder}
    (regular : OctetDecoder.Regular decode)
    (aligned : near.Aligned move far)
    (body : Window) :
    Reading.Agree move body.remainingSpan
      (decode near body) (decode far (body.displace move)) := by
  induction regular with
  | reading isLocal =>
      exact Reader.reporting_agree isLocal aligned body
  | carried carriage =>
      exact carriedMessage_agree aligned carriage body
  | session =>
      exact sessionMessage_agree aligned body
  | containerType =>
      exact genericContainerType_agree aligned body
  | container =>
      exact genericContainer_agree aligned body
  | userData =>
      exact userData_agree aligned body

theorem Decoder.Regular.agree
    {decoder : Decoder}
    (regular : decoder.Regular)
    (aligned : near.Aligned move far)
    (body : Window) :
    Reading.Agree move body.remainingSpan
      (decoder.decodeOctets near body) (decoder.decodeOctets far (body.displace move)) := by
  cases decoder with
  | nibble decode =>
      refine Reader.decoder_agree (fun site => ?_) aligned body
      exact Reader.octet_steady.bind fun octet _ => .pure ⟨rfl, regular _⟩
  | octets decode =>
      exact OctetDecoder.Regular.agree regular aligned body

theorem Decoder.Regular.decodeNibble_isPlain
    {decoder : Decoder}
    (regular : decoder.Regular)
    (nibble : UInt8) :
    (decoder.decodeNibble nibble).IsPlain := by
  cases decoder with
  | nibble decode =>
      exact regular nibble
  | octets decode =>
      trivial

end Decoders

end LteNas
