import LteNas.Text.Digits
import LteNas.Yaml.Typed

namespace LteNas.Yaml

/-!
# Writing scalars

A text is written plain where that reads back as the same text, else in single
quotes, in double quotes, or as a block of lines.
-/

/-- How a text is written. -/
inductive Style where
  | plain
  | singleQuoted
  | doubleQuoted
  | block
  deriving Repr, DecidableEq

/-- A character that can be written as it is; a byte order mark is none. -/
def isPrintable (character : Char) : Bool :=
  let code := character.toNat
  code == 0x0A || (0x20 ≤ code && code ≤ 0x7E) ||
    (0xA0 ≤ code && code ≤ 0xFFFD && code != 0xFEFF) || 0x10000 ≤ code

/-! ## What forbids a style -/

/-- The characters that mean something at the start of a scalar. -/
def startIndicators : List Char :=
  [ '#', ',', '[', ']', '\x7b', '\x7d', '&', '*', '!', '|', '>', '\'', '"', '%', '@',
    '\x60' ]

/-- A text starts like something else than a plain scalar. -/
def hasStartIndicator : List Char → Bool
  | [] => false
  | character :: text =>
      startIndicators.contains character ||
        ((character == '?' || character == ':' || character == '-') && endsToken text) ||
        startsLikeMarker (character :: text)
where
  /-- The text starts with the characters of a document marker. -/
  startsLikeMarker (text : List Char) : Bool :=
    let front := text.take 3
    front == ['-', '-', '-'] || front == ['.', '.', '.']

/-- Inside a text, a colon ends a name or a hash sign starts a comment. -/
def hasInnerIndicator : List Char → Bool
  | first :: second :: text =>
      (second == ':' && endsToken text) ||
        (second == '#' && (isSpacing first || isBreak first)) ||
        hasInnerIndicator (second :: text)
  | _ => false

/-- Two neighbouring characters satisfy a test. -/
def hasNeighbours (test : Char → Char → Bool) : List Char → Bool
  | first :: second :: text =>
      test first second || hasNeighbours test (second :: text)
  | _ => false

/-- A space stands in front of a line break. -/
def hasSpaceBreak (text : List Char) : Bool :=
  hasNeighbours (fun first second => first == ' ' && isBreak second) text

/-- A space stands behind a line break. -/
def hasBreakSpace (text : List Char) : Bool :=
  hasNeighbours (fun first second => isBreak first && second == ' ') text

/-- A text that only double quotes can hold. -/
def needsEscapes (text : List Char) : Bool :=
  hasSpaceBreak text || !text.all isPrintable

/-- A text may be written plain. -/
def allowsPlain (text : List Char) : Bool :=
  !(text.head?.any (· == ' ') || text.getLast?.any (· == ' ') || text.any isBreak ||
    hasStartIndicator text || hasInnerIndicator text || needsEscapes text)

/-- A text may be written in single quotes. -/
def allowsSingle (text : List Char) : Bool :=
  !(hasBreakSpace text || needsEscapes text)

/-- A text may be written as a block. -/
def allowsBlock (text : List Char) : Bool :=
  !(text.getLast?.any (· == ' ') || needsEscapes text)

def styleOf (text : String) : Style :=
  let characters := text.toList
  if characters.contains '\n' then
    if allowsBlock characters then .block else .doubleQuoted
  else if allowsPlain characters && !isTyped text then
    .plain
  else if allowsSingle characters then
    .singleQuoted
  else
    .doubleQuoted

/-! ## The styles -/

/-- The columns that further lines of a scalar stand in. -/
def indentation : List Char :=
  [' ', ' ']

/-- Characters in single quotes, where a line that follows a break is put in. -/
def singleContent (followsBreak : Bool) : List Char → List Char
  | [] =>
      if followsBreak then indentation else []
  | character :: text =>
      if isBreak character then
        character :: singleContent true text
      else
        let written := if character == '\'' then ['\'', '\''] else [character]
        (if followsBreak then indentation else []) ++ written ++ singleContent false text

def singleQuoted (text : List Char) : List Char :=
  '\'' :: singleContent false text ++ ['\'']

/-- Upper-case hexadecimal digits of a width. -/
def upperHexadecimal (width number : Nat) : List Char :=
  (Text.hexadecimal width number).toList.map Char.toUpper

def escapeLetter? (character : Char) : Option Char :=
  match character with
  | '\x00' => some '0'
  | '\x07' => some 'a'
  | '\x08' => some 'b'
  | '\t' => some 't'
  | '\n' => some 'n'
  | '\x0b' => some 'v'
  | '\x0c' => some 'f'
  | '\r' => some 'r'
  | '\x1b' => some 'e'
  | '"' => some '"'
  | '\\' => some '\\'
  | '\u0085' => some 'N'
  | '\u2028' => some 'L'
  | '\u2029' => some 'P'
  | _ => none

/-- A character as an escape with the digits of its code. -/
def numericEscape (character : Char) : List Char :=
  let code := character.toNat
  if code ≤ 0xFF then 'x' :: upperHexadecimal 2 code
  else if code ≤ 0xFFFF then 'u' :: upperHexadecimal 4 code
  else 'U' :: upperHexadecimal 8 code

def doubleCharacter (character : Char) : List Char :=
  match escapeLetter? character with
  | some letter => ['\\', letter]
  | none =>
      if isPrintable character then [character] else '\\' :: numericEscape character

def doubleQuoted (text : List Char) : List Char :=
  '"' :: text.flatMap doubleCharacter ++ ['"']

/-- The mark of a block that starts with a space or a break: how far its lines stand in. -/
def indentMark (text : List Char) : List Char :=
  if text.head?.any (fun character => character == ' ' || isBreak character) then
    ['2']
  else
    []

/-- The mark of a block that does not end with exactly one break. -/
def endMark (text : List Char) : List Char :=
  match text.reverse with
  | last :: others =>
      if !isBreak last then ['-']
      else
        match others with
        | before :: _ => if isBreak before then ['+'] else []
        | [] => ['+']
  | [] => ['-']

/-- The lines of a block; an empty line is not put in. -/
def blockContent (startsLine : Bool) : List Char → List Char
  | [] => []
  | character :: text =>
      if isBreak character then
        character :: blockContent true text
      else
        (if startsLine then indentation else []) ++ character :: blockContent false text

def block (text : List Char) : List Char :=
  '|' :: indentMark text ++ endMark text ++ '\n' :: blockContent true text

def inStyle (style : Style) (text : List Char) : List Char :=
  match style with
  | .plain => text
  | .singleQuoted => singleQuoted text
  | .doubleQuoted => doubleQuoted text
  | .block => block text

def writeText (text : String) : String :=
  String.ofList (inStyle (styleOf text) text.toList)

/-- A scalar up to the end of its line, which a block may have reached by itself. -/
def endLine (scalar : String) : String :=
  if scalar.toList.getLast?.any isBreak then scalar else scalar.push '\n'

end LteNas.Yaml
