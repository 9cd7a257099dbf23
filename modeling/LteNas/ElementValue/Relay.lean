import LteNas.ElementValue.Security
import LteNas.Identity.Address

namespace LteNas

/-!
# Relay values

The terminals that reach the network through another one, and the server that
hands out their keys.
-/

namespace ElementValue

def userIdentityKinds : List (Nat × String) :=
  [ (1, "Encrypted IMSI"),
    (2, "IMSI"),
    (3, "MSISDN"),
    (4, "IMEI"),
    (5, "IMEISV") ]

/-- A user identity behind its length. -/
def readUserIdentity : Reader Value := do
  let identity ← Reader.inner (← Reader.number 1)
  match identity.rest with
  | [] =>
      Reader.fail (.tooShort ⟨1, 0⟩)
  | first :: octets =>
      return .fields
        [ ⟨"Type of user identity",
            codedBy userIdentityKinds "Reserved" (identityKind first)⟩,
          flagField "Odd/even indication" first 4,
          ⟨"Identity digits", .digits (DialledDigits.textAfter first octets)⟩ ]

def remoteAddressFields (kind : String) (code : Nat) (address : Option String) : List Field :=
  ⟨"Address type", .coded code kind⟩ ::
    (address.map (textField "Remote UE IP information")).toList

def readRemoteAddress : Reader (List Field) := do
  let code := (← Reader.octet) &&& 0x07
  match code.toNat with
  | 0 =>
      return remoteAddressFields "No IP Info" 0 none
  | 1 =>
      return remoteAddressFields "IPv4" 1 (Address.dotted (← Reader.octets 4))
  | 2 =>
      return remoteAddressFields "IPv6" 2 (Address.interfaceIdentifier (← Reader.octets 8))
  | other =>
      Reader.fail (.invalidValue (.remoteAddressType other))

/-- A remote terminal: its user identities and its address; further octets are skipped. -/
def readRemoteTerminal : Reader Value := do
  let count ← Reader.number 1
  let identities ← Reader.times readUserIdentity count
  let address ← Reader.ifMore readRemoteAddress
  return .fields (⟨"User identities", .list identities⟩ :: address.getD [])

/-- The window of a remote terminal behind its length. -/
def readRemoteWindow : Reader Window := do
  Reader.inner (← Reader.number 1)

/-- The value of a remote terminal; one that cannot be read stays as it is and is reported. -/
def remoteTerminalValue (window : Window) : Value × List Diagnostic :=
  match readRemoteTerminal window with
  | .ok (terminal, _) =>
      (terminal, [])
  | .error fault =>
      (.octets window.rest,
        [⟨.malformedElement "Remote UE context" fault.message, window.remainingSpan⟩])

/-- What is wrong with the number of remote terminals behind a run that found no fault. -/
def remoteCountComplaint (declared found : Nat) (leftOver : Bool) (span : Span) :
    List Diagnostic :=
  if found ≠ declared ∨ leftOver then
    [⟨.wrongNumberOfElements declared found, span⟩]
  else
    []

def remoteTerminals : OctetDecoder :=
  Reader.reporting fun start => do
    let (count, window) ← Reader.number 1 start
    let run := window.run readRemoteWindow count
    let terminals := run.records.map remoteTerminalValue
    let values := terminals.map Prod.fst
    let ending :=
      if run.fault.isSome then
        run.complaint "Remote UE context"
      else
        remoteCountComplaint count values.length (!run.tail.isEmpty) start.remainingSpan
    .ok ((.list values, terminals.flatMap Prod.snd ++ ending), run.tail.exhaust)

def keyServerAddress : OctetDecoder :=
  Reader.decoder do
    let code := (← Reader.octet) &&& 0x07
    match code.toNat with
    | 1 =>
        Reader.expectExactly 4
        return addressFields 1 "IPv4" (Address.dotted (← Reader.octets 4))
    | 2 =>
        Reader.expectExactly 16
        return addressFields 2 "IPv6" (Address.ipv6 (← Reader.octets 16))
    | other =>
        Reader.fail (.invalidValue (.keyServerAddressType other))
where
  /-- A kind of address and the address. -/
  addressFields (code : Nat) (kind address : String) : Value :=
    .fields
      [ ⟨"Address type", .coded code kind⟩,
        textField "PKMF address" address ]

end ElementValue

end LteNas
