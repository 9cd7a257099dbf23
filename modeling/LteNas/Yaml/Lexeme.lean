namespace LteNas.Yaml

/-!
# Characters and gaps

Settings are written in YAML, as one mapping from names to scalars.  This module
holds the classes of its characters, what a run of blanks and line breaks inside
a scalar stands for, and the way from one token to the next.
-/

/-- A line break once the different ends of lines have been made one. -/
def isBreak (character : Char) : Bool :=
  character == '\n' || character == '\u2028' || character == '\u2029'

/-- A character that separates words on a line. -/
def isSpacing (character : Char) : Bool :=
  character == ' ' || character == '\t'

/-- A token may end in front of these characters. -/
def endsToken : List Char → Bool
  | [] => true
  | character :: _ => isSpacing character || isBreak character

/-- A character that may stand in a text; most control characters may not. -/
def isAllowed (character : Char) : Bool :=
  let code := character.toNat
  code == 0x09 || code == 0x0A || code == 0x0D || (0x20 ≤ code && code ≤ 0x7E) ||
    code == 0x85 || (0xA0 ≤ code && code ≤ 0xFFFD) || 0x10000 ≤ code

/-- Line feeds in place of the other ends of lines. -/
def unifyBreaks : List Char → List Char
  | [] => []
  | '\r' :: '\n' :: text => '\n' :: unifyBreaks text
  | '\r' :: text => '\n' :: unifyBreaks text
  | '\u0085' :: text => '\n' :: unifyBreaks text
  | character :: text => character :: unifyBreaks text

/-! ## Gaps inside scalars -/

/-- The blanks and line breaks since the last visible character of a scalar. -/
inductive Gap where
  | nothing
  /-- Blanks of one line, last one first. -/
  | blanks (reversed : List Char)
  /-- A line break and those after it, last one first; blanks around them do not count. -/
  | breaks (first : Option Char) (reversed : List Char)
  deriving Repr, DecidableEq

namespace Gap

def addBlank (blank : Char) : Gap → Gap
  | .nothing => .blanks [blank]
  | .blanks reversed => .blanks (blank :: reversed)
  | .breaks first reversed => .breaks first reversed

def addBreak (lineBreak : Char) : Gap → Gap
  | .breaks first reversed => .breaks first (lineBreak :: reversed)
  | _ => .breaks (some lineBreak) []

/--
What a gap stands for, last character first: blanks for themselves, a single
line feed for a space, and a line feed in front of other breaks for nothing.
-/
def reversedText : Gap → List Char
  | .nothing => []
  | .blanks reversed => reversed
  | .breaks (some '\n') [] => [' ']
  | .breaks (some '\n') reversed => reversed
  | .breaks first reversed => reversed ++ first.toList

/-- The gap reaches over the end of a line. -/
def spansLines : Gap → Bool
  | .breaks _ _ => true
  | _ => false

end Gap

/-! ## Between tokens -/

/-- A place between tokens, or the place where a token starts. -/
structure TokenStart where
  /-- Nothing but blanks stands in front of it on its line. -/
  startsLine : Bool
  column : Nat
  text : List Char
  deriving Repr, DecidableEq

/-- The mark that may stand at the start of a line of encoded text. -/
def orderMark : Char :=
  '\ufeff'

/--
Go on to the next token, over blanks, line breaks and comments.  A tab in front
of the first token of a line is a blank only inside braces.  A byte order mark at
the start of a line is passed over and takes up a column.
-/
def nextToken (inBraces inComment startsLine : Bool) (column : Nat) : List Char → TokenStart
  | [] =>
      ⟨startsLine, column, []⟩
  | character :: text =>
      if isBreak character then
        nextToken inBraces false true 0 text
      else if inComment then
        nextToken inBraces true startsLine (column + 1) text
      else if column == 0 && character == orderMark then
        nextToken inBraces false startsLine 1 text
      else if character == ' ' || (character == '\t' && (inBraces || !startsLine)) then
        nextToken inBraces false startsLine (column + 1) text
      else if character == '#' then
        nextToken inBraces true startsLine (column + 1) text
      else
        ⟨startsLine, column, character :: text⟩

/-- The next token outside braces, from a place behind or in front of a token. -/
def TokenStart.next (place : TokenStart) : TokenStart :=
  nextToken false false place.startsLine place.column place.text

/-- The place so many characters further on the line. -/
def TokenStart.skip (place : TokenStart) (characters : Nat) : TokenStart :=
  ⟨false, place.column + characters, place.text.drop characters⟩

/-- A marker of three characters starts here and the token ends behind it. -/
def startsMarker (marker : Char) : List Char → Bool
  | first :: second :: third :: text =>
      first == marker && second == marker && third == marker && endsToken text
  | _ => false

/-- A marker between documents starts here. -/
def startsDocumentMarker (text : List Char) : Bool :=
  startsMarker '-' text || startsMarker '.' text

/-- A marker between documents starts here; it stands in the first column of a line. -/
def TokenStart.startsMarkerLine (token : TokenStart) : Bool :=
  token.startsLine && token.column == 0 && startsDocumentMarker token.text

end LteNas.Yaml
