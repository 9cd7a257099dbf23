namespace LteNas

/-!
# Link directions and log levels

The two settings that are named by a word in either case.
-/

/-- The way a message travels. -/
inductive Direction where
  | uplink
  | downlink
  | unknown
  deriving Repr, DecidableEq

/-- How much a run tells about itself. -/
inductive LogLevel where
  | trace
  | debug
  | info
  | warn
  | error
  deriving Repr, DecidableEq

/--
The lower-case form of a character as far as it is an ASCII letter: capitals,
and the Kelvin sign, whose lower-case form is a plain k.
-/
def lowerLetter (character : Char) : Char :=
  if character = '\u212a' then 'k' else character.toLower

/-- A word with its letters in lower case. -/
def lowerWord (word : String) : String :=
  String.ofList (word.toList.map lowerLetter)

namespace Direction

def parse? (word : String) : Option Direction :=
  match lowerWord word with
  | "ul" => some .uplink
  | "uplink" => some .uplink
  | "dl" => some .downlink
  | "downlink" => some .downlink
  | "unknown" => some .unknown
  | "?" => some .unknown
  | _ => none

/-- The complaint about a word that names no direction. -/
def unknownMessage (word : String) : String :=
  s!"unknown direction: {word}"

/-- The short sign of a direction. -/
def text : Direction → String
  | .uplink => "UL"
  | .downlink => "DL"
  | .unknown => "??"

/-- The direction bit of the ciphering counter: one for downlink. -/
def bit : Direction → UInt8
  | .downlink => 1
  | _ => 0

end Direction

namespace LogLevel

def parse? (word : String) : Option LogLevel :=
  match lowerWord word with
  | "trace" => some .trace
  | "debug" => some .debug
  | "info" => some .info
  | "warn" => some .warn
  | "warning" => some .warn
  | "error" => some .error
  | _ => none

/-- The complaint about a word that names no level. -/
def unknownMessage (word : String) : String :=
  s!"unknown log level: {word}"

def text : LogLevel → String
  | .trace => "trace"
  | .debug => "debug"
  | .info => "info"
  | .warn => "warn"
  | .error => "error"

end LogLevel

end LteNas
