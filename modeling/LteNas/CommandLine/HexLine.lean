import LteNas.Octets.Hex
import LteNas.Text.Blank

namespace LteNas

/-!
# Hexadecimal lines

A line of input holds one message in hexadecimal.  Blanks, colons and hyphens
may stand anywhere between the digits, and one marker 0x in front of them.
-/

/-- Why a line holds no message. -/
inductive HexLineFault where
  | oddDigits (count : Nat)
  | badHex (line : String) (fault : HexFault)
  deriving Repr, DecidableEq

def HexLineFault.message : HexLineFault → String
  | .oddDigits count =>
      s!"odd number of hex digits ({count})"
  | .badHex line fault =>
      s!"invalid hex: {line}: {fault.message}"

namespace HexLine

/-- A character that may stand between digits. -/
def isSeparator (character : Char) : Bool :=
  Text.isBlank character || character == ':' || character == '-'

/-- Drop one marker 0x in either case. -/
def dropMarker : List Char → List Char
  | '0' :: 'x' :: text => text
  | '0' :: 'X' :: text => text
  | text => text

def digitOctets (line : List Char) : List UInt8 :=
  utf8Octets ((dropMarker line).filter fun character => !isSeparator character)

/-- A line that says nothing: it is empty or starts a comment. -/
def isSilent (line : List Char) : Bool :=
  line.isEmpty || line.head? == some '#'

/-- The message of a line without blanks at its ends. -/
def readTrimmed (line : List Char) : Except HexLineFault (List UInt8) :=
  let digits := digitOctets line
  if digits.length % 2 ≠ 0 then
    .error (.oddDigits digits.length)
  else
    (Hex.decode digits).mapError (.badHex (String.ofList line))

/-- The message of a line; a silent line has none. -/
def read (line : String) : Except HexLineFault (Option (List UInt8)) :=
  let line := Text.trim line.toList
  if isSilent line then
    .ok none
  else
    (readTrimmed line).map some

end HexLine

end LteNas
