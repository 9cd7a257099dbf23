import LteNas.Octets.Hex
import LteNas.Text.Blank
import LteNas.Cipher.Aes

namespace LteNas

/-!
# Decoder settings

Settings are one value that is fixed for a run.  The deciphering key is kept as
the text that was configured and is read from it on demand, so that a faulty
key text is a finding of the check and never of a decoding run.
-/

/-- How the payload of a user data container is labelled. -/
inductive UserData where
  | raw
  | ip
  | nonIp
  | ethernet
  deriving Repr, DecidableEq

/-- The settings of a decoding run. -/
structure Config where
  /-- Read every message as plain. -/
  dissectPlain : Bool
  /-- Without a key, take ciphered payloads as they are. -/
  nullDecipher : Bool
  userData : UserData
  /-- The protocol name of payloads that are no internet packets. -/
  nonIpProtocol : String
  /-- The text of the deciphering key. -/
  keyText : Option String
  /-- The number of messages that may be nested in each other. -/
  maxNestingDepth : Nat
  deriving Repr, DecidableEq

/-- Why a key text names no key. -/
inductive KeyFault where
  | badHex (fault : HexFault)
  | wrongLength (octets : Nat)
  deriving Repr, DecidableEq

/-- Why settings cannot be used. -/
inductive ConfigFault where
  | invalidKey (fault : KeyFault)
  | noNesting
  | missingProtocol
  deriving Repr, DecidableEq

/-- The number of octets of a key. -/
def keyLength : Nat :=
  16

def KeyFault.message : KeyFault → String
  | .badHex fault =>
      s!"Invalid decipher key: {fault.message}"
  | .wrongLength octets =>
      s!"Invalid decipher key: expected {keyLength} bytes, got {octets}"

/-- The text of a settings fault. -/
def ConfigFault.message : ConfigFault → String
  | .invalidKey fault =>
      fault.message
  | .noNesting =>
      "Configuration error: max_nesting_depth must be at least 1"
  | .missingProtocol =>
      "Configuration error: non_ip_data_dissector is required when decoding user data as non_ip"

namespace UserData

def word : UserData → String
  | .raw => "none"
  | .ip => "ip"
  | .nonIp => "non_ip"
  | .ethernet => "ethernet"

def ofWord? (word : String) : Option UserData :=
  match word with
  | "none" => some .raw
  | "ip" => some .ip
  | "non_ip" => some .nonIp
  | "ethernet" => some .ethernet
  | _ => none

end UserData

namespace KeyText

/-- Drop every leading marker 0x. -/
def dropMarkers : List Char → List Char
  | '0' :: 'x' :: text => dropMarkers text
  | text => text

/-- A character that may stand between the digits of a key. -/
def isSeparator (character : Char) : Bool :=
  Text.isBlank character || character == ':'

/-- The digits of a key text: no markers, no separators. -/
def digits (text : List Char) : List Char :=
  (dropMarkers (Text.trim text)).filter fun character => !isSeparator character

def ofOctets (octets : List UInt8) : Except KeyFault Block :=
  if length : octets.toArray.size = keyLength then
    .ok ⟨octets.toArray, length⟩
  else
    .error (.wrongLength octets.length)

/-- The key that a text names; a text without digits names none. -/
def read (text : String) : Except KeyFault (Option Block) :=
  let text := digits text.toList
  if text.isEmpty then
    .ok none
  else
    match Hex.decode (utf8Octets text) with
    | .ok octets =>
        (ofOctets octets).map some
    | .error fault =>
        .error (.badHex fault)

end KeyText

namespace Config

/-- The settings where nothing is configured. -/
def standard : Config where
  dissectPlain := false
  nullDecipher := false
  userData := .raw
  nonIpProtocol := ""
  keyText := none
  maxNestingDepth := 4

def key (config : Config) : Except KeyFault (Option Block) :=
  match config.keyText with
  | none =>
      .ok none
  | some text =>
      KeyText.read text

/-- The key that a run works with: a faulty key text counts as none. -/
def usableKey? (config : Config) : Option Block :=
  match config.key with
  | .ok key =>
      key
  | .error _ =>
      none

/-- The protocol name of non-internet payloads is nothing but blanks. -/
def lacksProtocol (config : Config) : Bool :=
  (Text.trim config.nonIpProtocol.toList).isEmpty

/-- The first fault of settings: the key, then the nesting depth, then the protocol name. -/
def check (config : Config) : Except ConfigFault Unit :=
  match config.key with
  | .error fault =>
      .error (.invalidKey fault)
  | .ok _ =>
      if config.maxNestingDepth = 0 then
        .error .noNesting
      else if config.userData = .nonIp ∧ config.lacksProtocol then
        .error .missingProtocol
      else
        .ok ()

end Config

end LteNas
