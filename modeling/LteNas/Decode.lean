import LteNas.Catalogue.MessageBody
import LteNas.Cipher.Payload

namespace LteNas

/-!
# Decoding

A message is decoded from the outside in: the security header, the payload that
it protects, the discriminator, the message type, and the elements.  Decoding is
total; whatever is wrong is a diagnostic of the message that it is wrong with.
Every decoder here hands back the message and the window behind it.
-/

def Message.report (message : Message) (kind : DiagnosticKind) (span : Span) : Message :=
  { message with diagnostics := message.diagnostics ++ [⟨kind, span⟩] }

/-- A message with one more element, which has no tag. -/
def Message.append
    (message : Message)
    (label : String)
    (span : Span)
    (value : Value) :
    Message :=
  { message with elements := message.elements ++ [⟨none, label, span, value⟩] }

/-- A message type with its name and its body. -/
structure MessageLayout where
  name : String
  body : MessageBody

def MobilityMessage.layout? (code : UInt8) : Option MessageLayout :=
  (ofCode? code).map fun message => ⟨message.name, message.body⟩

def SessionMessage.layout? (code : UInt8) : Option MessageLayout :=
  (ofCode? code).map fun message => ⟨message.name, message.body⟩

namespace Scope

/-! ## Plain messages -/

/-- Decode the elements of a message. -/
def decodeBody
    (scope : Scope)
    (layout : MessageLayout)
    (message : Message)
    (window : Window) :
    Message × Window :=
  let walk := layout.body.walk scope window
  ( { message with
      name := some layout.name
      elements := walk.elements
      diagnostics := walk.diagnostics },
    walk.window )

/-- Decode from the message type on; what follows an unknown type is skipped. -/
def decodeTyped
    (scope : Scope)
    (layout? : UInt8 → Option MessageLayout)
    (message : Message)
    (window : Window) :
    Message × Window :=
  let start := window.position
  match window.octet with
  | .error _ =>
      (message.report (.missingMandatory "Message type") ⟨start, start⟩, window)
  | .ok (code, after) =>
      let message := { message with messageType := some code }
      match layout? code with
      | some layout =>
          scope.decodeBody layout message after
      | none =>
          (message.report (.unknownMessageType code) ⟨start, start + 1⟩, after.exhaust)

/-- Decode a session management message from its transaction identity on. -/
def decodeSession
    (scope : Scope)
    (message : Message)
    (window : Window) :
    Message × Window :=
  let start := window.position
  match window.octet with
  | .error _ =>
      (message.report (.missingMandatory "Procedure transaction identity") ⟨start, start⟩,
        window)
  | .ok (transaction, after) =>
      scope.decodeTyped SessionMessage.layout?
        { message with transactionIdentity := some transaction } after

/-- The protocol that messages of the test procedures are handed to. -/
def testProtocol : String :=
  "gsm_a.tc"

def takeTestMessage (message : Message) (window : Window) : Message × Window :=
  ( { message with name := some Protocol.testProcedures.name }.append
      "Test procedures message"
      window.remainingSpan
      (.handoff testProtocol window.rest),
    window.exhaust )

/-- Decode a message without security header. -/
def decodePlain
    (scope : Scope)
    (message : Message)
    (window : Window) :
    Message × Window :=
  let start := window.position
  match window.peek? with
  | none =>
      (message.report (.missingMandatory "Protocol discriminator") ⟨start, start⟩, window)
  | some first =>
      let discriminator := Protocol.discriminatorOf first
      let message := { message with discriminator := some discriminator }
      match Protocol.ofDiscriminator? discriminator with
      | some .sessionManagement =>
          scope.decodeSession
            { message with bearerIdentity := some (highNibble first) }
            (window.advance 1)
      | some .mobilityManagement =>
          scope.decodeTyped MobilityMessage.layout? message (window.advance 1)
      | some .testProcedures =>
          takeTestMessage message window
      | none =>
          (message.report (.wrongDiscriminator discriminator) ⟨start, start + 1⟩,
            window.exhaust)

/-! ## Protected messages -/

def serviceRequestName : String :=
  "Service request"

/-- Show the four octets of a service request, which end in front of the window. -/
def decodeServiceRequest
    (envelope : Envelope)
    (message : Message)
    (window : Window) :
    Message × Window :=
  let start := window.position - 4
  let identifiers : Value :=
    .fields
      [ numberField "KSI" (envelope.keySet.getD 0).toNat,
        numberField "Sequence number (short)" (envelope.sequenceNumber.getD 0).toNat ]
  let code : Value :=
    .number (envelope.authenticationCode.getD 0)
  let message :=
    { message with name := some serviceRequestName }
      |>.append "KSI and sequence number" ⟨start + 1, start + 2⟩ identifiers
      |>.append "Message authentication code (short)" ⟨start + 2, start + 4⟩ code
  if window.isEmpty then
    (message, window)
  else
    (message.report .extraneousData window.remainingSpan, window.exhaust)

/-- How the payload behind an envelope is deciphered. -/
def payloadCipher (scope : Scope) (envelope : Envelope) : PayloadCipher where
  key := scope.key
  nullDecipher := scope.config.nullDecipher
  direction := scope.direction
  sequenceNumber := envelope.sequenceNumber.getD 0

/-- Decode a ciphered payload, or keep it as it is where it cannot be deciphered. -/
def decodeCiphered
    (scope : Scope)
    (envelope : Envelope)
    (message : Message)
    (window : Window) :
    Message × Window :=
  match (scope.payloadCipher envelope).decipher? window.rest with
  | some plain =>
      let inner := Window.ofOctets plain window.position
      ((scope.decodePlain message inner).1, window.exhaust)
  | none =>
      let span := window.remainingSpan
      let message := message.append "Ciphered message" span (.ciphered window.rest)
      (message.report .decipherFailed span, window.exhaust)

/-- Decode what stands behind an envelope. -/
def decodePayload
    (scope : Scope)
    (envelope : Envelope)
    (message : Message)
    (window : Window) :
    Message × Window :=
  match envelope.kind with
  | .serviceRequest =>
      decodeServiceRequest envelope message window
  | .integrityProtectedPartiallyCiphered =>
      { scope with partiallyCiphered := true }.decodePlain message window
  | kind =>
      if kind.isCiphered then
        scope.decodeCiphered envelope message window
      else
        scope.decodePlain message window

/-- Decode a message from its security header on. -/
def decodeMessage (scope : Scope) (window : Window) : Message × Window :=
  let start := window.position
  match Envelope.read scope.config.dissectPlain window with
  | .ok (envelope, after) =>
      scope.decodePayload envelope
        { Message.empty with
          envelope := some envelope
          discriminator := some envelope.discriminator }
        after
  | .error (.wrongProtocol discriminator _) =>
      let message := { Message.empty with discriminator := some discriminator }
      (message.report (.wrongDiscriminator discriminator) ⟨start, start + 1⟩, window)
  | .error (.truncated _) =>
      let kind :=
        if window.isEmpty then
          .missingMandatory "Protocol discriminator"
        else
          .outOfBounds "Security header"
      (Message.empty.report kind window.remainingSpan, window.exhaust)

def decodeCarried (scope : Scope) (window : Window) : Carriage → Message × Window
  | .complete => scope.decodeMessage window
  | .bare => scope.decodePlain Message.empty window

end Scope

/-! ## Nesting -/

namespace Setup

/-- A scope in which nothing has been established, at a depth. -/
def freshScope
    (setup : Setup)
    (nested : Carriage → Window → Option (Message × Window))
    (depth : Nat) :
    Scope :=
  { setup with
    depth
    partiallyCiphered := false
    containerType := none
    nested }

/-- Decode a message inside one at a depth, from which so many levels may still be entered. -/
def decodeNested
    (setup : Setup) :
    (levels depth : Nat) → Carriage → Window → Option (Message × Window)
  | 0, _, _, _ =>
      none
  | levels + 1, depth, carriage, window =>
      let scope := setup.freshScope (setup.decodeNested levels (depth + 1)) (depth + 1)
      some (scope.decodeCarried window carriage)

def scope (setup : Setup) (depth : Nat) : Scope :=
  setup.freshScope (setup.decodeNested (setup.config.maxNestingDepth - depth) depth) depth

/-- The setup of a configuration; a key that cannot be read counts as none. -/
def ofConfig (config : Config) (direction : Direction) : Setup :=
  ⟨config, config.usableKey?, direction⟩

end Setup

/-- The scope of a message inside one of this scope, unless that is too deep. -/
def Scope.enter? (scope : Scope) : Option Scope :=
  if scope.depth < scope.config.maxNestingDepth then
    some (scope.toSetup.scope (scope.depth + 1))
  else
    none

def decode (octets : List UInt8) (direction : Direction) (config : Config) : Message :=
  let scope := (Setup.ofConfig config direction).scope 0
  (scope.decodeMessage (Window.ofOctets octets 0)).1

end LteNas
