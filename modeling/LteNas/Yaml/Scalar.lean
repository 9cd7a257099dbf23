import LteNas.Octets.Hex
import LteNas.Yaml.Lexeme

namespace LteNas.Yaml

/-!
# Scalars

A scalar is plain, in single quotes, or in double quotes.  Only a plain one can
be a number, a truth value or null.
-/

/-- The text of a scalar and whether it stands without quotes. -/
structure Scalar where
  text : String
  isPlain : Bool
  deriving Repr, DecidableEq

/-- The scalar where nothing is written. -/
def Scalar.empty : Scalar :=
  ⟨"", true⟩

/-- A scalar that was read, and what stands behind it. -/
structure ScalarEnd where
  scalar : Scalar
  /-- The scalar goes over the end of a line. -/
  spansLines : Bool
  after : TokenStart
  deriving Repr, DecidableEq

/-! ## Plain scalars -/

/-- The characters that no plain scalar starts with. -/
def indicators : List Char :=
  [ ',', '[', ']', '\x7b', '\x7d', '#', '&', '*', '!', '|', '>', '\'', '"', '%', '@',
    '\x60' ]

/-- A plain scalar may start here. -/
def startsPlain : List Char → Bool
  | [] => false
  | character :: text =>
      if character == '-' || character == '?' || character == ':' then
        !endsToken text
      else
        !indicators.contains character && !isSpacing character && !isBreak character

/-- A plain scalar ends in front of this text, which stands behind a gap. -/
def endsPlain (gap : Gap) : List Char → Bool
  | [] => true
  | '#' :: _ => gap != .nothing
  | ':' :: text => endsToken text
  | _ => false

/-- The plain scalar of reversed characters, in front of what follows the gap behind it. -/
def plainEnd
    (spansLines : Bool)
    (reversed : List Char)
    (gap : Gap)
    (column : Nat)
    (text : List Char) :
    ScalarEnd :=
  ⟨⟨String.ofList reversed.reverse, true⟩, spansLines, ⟨gap.spansLines, column, text⟩⟩

/--
Read on in a plain scalar whose lines stand at least `indent` columns in.  A tab
may not stand in place of the spaces that a line needs.
-/
def readPlain
    (indent : Nat)
    (spansLines : Bool)
    (reversed : List Char)
    (gap : Gap)
    (column : Nat) :
    List Char → Option ScalarEnd
  | [] =>
      some (plainEnd spansLines reversed gap column [])
  | character :: text =>
      if isBreak character then
        readPlain indent spansLines reversed (gap.addBreak character) 0 text
      else if isSpacing character then
        if character == '\t' && gap.spansLines && column < indent then
          none
        else
          readPlain indent spansLines reversed (gap.addBlank character) (column + 1) text
      else if endsPlain gap (character :: text) || (gap.spansLines && column < indent) then
        some (plainEnd spansLines reversed gap column (character :: text))
      else
        readPlain indent (spansLines || gap.spansLines)
          (character :: (gap.reversedText ++ reversed)) .nothing (column + 1) text

/-! ## Quoted scalars -/

/-- The quoted scalar of reversed characters, in front of what follows the closing quote. -/
def quotedEnd
    (spansLines : Bool)
    (reversed : List Char)
    (column : Nat)
    (text : List Char) :
    ScalarEnd :=
  ⟨⟨String.ofList reversed.reverse, false⟩, spansLines, ⟨false, column, text⟩⟩

/-- Read on in single quotes, where a quote is written twice. -/
def readSingle
    (spansLines : Bool)
    (reversed : List Char)
    (gap : Gap)
    (column : Nat) :
    List Char → Option ScalarEnd
  | [] =>
      none
  | '\'' :: '\'' :: text =>
      readSingle spansLines ('\'' :: (gap.reversedText ++ reversed)) .nothing (column + 2) text
  | '\'' :: text =>
      some (quotedEnd spansLines (gap.reversedText ++ reversed) (column + 1) text)
  | character :: text =>
      if isBreak character then
        if startsDocumentMarker text then
          none
        else
          readSingle true reversed (gap.addBreak character) 0 text
      else if isSpacing character then
        readSingle spansLines reversed (gap.addBlank character) (column + 1) text
      else
        readSingle spansLines (character :: (gap.reversedText ++ reversed)) .nothing
          (column + 1) text

def escaped? (letter : Char) : Option Char :=
  match letter with
  | '0' => some '\x00'
  | 'a' => some '\x07'
  | 'b' => some '\x08'
  | 't' => some '\t'
  | '\t' => some '\t'
  | 'n' => some '\n'
  | 'v' => some '\x0b'
  | 'f' => some '\x0c'
  | 'r' => some '\r'
  | 'e' => some '\x1b'
  | ' ' => some ' '
  | '"' => some '"'
  | '/' => some '/'
  | '\\' => some '\\'
  | 'N' => some '\u0085'
  | '_' => some '\u00a0'
  | 'L' => some '\u2028'
  | 'P' => some '\u2029'
  | _ => none

/-- The number of digits behind the letter of a numeric escape. -/
def escapeDigits? (letter : Char) : Option Nat :=
  match letter with
  | 'x' => some 2
  | 'u' => some 4
  | 'U' => some 8
  | _ => none

def digitValue? (character : Char) : Option Nat :=
  if character.toNat < 0x80 then
    (Hex.nibble? (UInt8.ofNat character.toNat)).map UInt8.toNat
  else
    none

/-- The character of a code, which may be no surrogate. -/
def ofCode? (code : Nat) : Option Char :=
  if code.isValidChar then some (Char.ofNat code) else none

/-- Where a reader in double quotes stands. -/
inductive QuotedState where
  | text
  /-- Behind a backslash. -/
  | escape
  /-- Inside a numeric escape, with so many digits to come. -/
  | digits (missing code : Nat)
  deriving Repr, DecidableEq

/-- Read on in double quotes, where a backslash starts an escape. -/
def readDouble
    (spansLines : Bool)
    (reversed : List Char)
    (gap : Gap)
    (state : QuotedState)
    (column : Nat) :
    List Char → Option ScalarEnd
  | [] =>
      none
  | character :: text =>
      match state with
      | .digits missing code =>
          match digitValue? character with
          | none =>
              none
          | some value =>
              let code := code * 16 + value
              if missing ≤ 1 then
                match ofCode? code with
                | none =>
                    none
                | some spelled =>
                    readDouble spansLines (spelled :: reversed) .nothing .text (column + 1) text
              else
                readDouble spansLines reversed gap (.digits (missing - 1) code) (column + 1) text
      | .escape =>
          if isBreak character then
            if startsDocumentMarker text then
              none
            else
              readDouble true reversed (.breaks none []) .text 0 text
          else
            match escaped? character, escapeDigits? character with
            | some spelled, _ =>
                readDouble spansLines (spelled :: reversed) .nothing .text (column + 1) text
            | none, some missing =>
                readDouble spansLines reversed gap (.digits missing 0) (column + 1) text
            | none, none =>
                none
      | .text =>
          if character == '"' then
            some (quotedEnd spansLines (gap.reversedText ++ reversed) (column + 1) text)
          else if character == '\\' then
            readDouble spansLines (gap.reversedText ++ reversed) .nothing .escape
              (column + 1) text
          else if isBreak character then
            if startsDocumentMarker text then
              none
            else
              readDouble true reversed (gap.addBreak character) .text 0 text
          else if isSpacing character then
            readDouble spansLines reversed (gap.addBlank character) .text (column + 1) text
          else
            readDouble spansLines (character :: (gap.reversedText ++ reversed)) .nothing
              .text (column + 1) text

/-- Read the scalar at a token whose further lines stand at least `indent` columns in. -/
def readScalar (indent : Nat) (token : TokenStart) : Option ScalarEnd :=
  match token.text with
  | '\'' :: text => readSingle false [] .nothing (token.column + 1) text
  | '"' :: text => readDouble false [] .nothing .text (token.column + 1) text
  | text =>
      if startsPlain text then
        readPlain indent false [] .nothing token.column text
      else
        none

end LteNas.Yaml
