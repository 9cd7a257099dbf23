import LteNas.Yaml.Scalar

namespace LteNas.Yaml

/-!
# Flat mappings

A text holds one mapping of scalars, one entry a line, all at the same column.
Nothing at all, and a pair of braces, are the mapping without entries.
-/

/-- A name and its scalar. -/
structure Entry where
  name : String
  scalar : Scalar
  deriving Repr, DecidableEq

/-- Nothing but blanks, comments and document ends is left. -/
def isFinished : (limit : Nat) → TokenStart → Bool
  | 0, token =>
      token.text.isEmpty
  | limit + 1, token =>
      token.text.isEmpty ||
        (token.startsLine && token.column == 0 && startsMarker '.' token.text &&
          isFinished limit (token.skip 3).next)

def endsDocument (token : TokenStart) : Bool :=
  isFinished (token.text.length + 1) token

/-- How far the colon of an entry may stand behind the start of its name. -/
def nameReach : Nat :=
  1024

/--
The name of an entry and the place behind its colon, which ends a token and
stands on the line of the name and within its reach.
-/
def readEntryName (token : TokenStart) : Option (String × TokenStart) := do
  let found ← readScalar (token.column + 1) token
  let colon := found.after.next
  match found.spansLines || colon.startsLine, colon.text with
  | false, ':' :: text =>
      if endsToken text && colon.column ≤ token.column + nameReach then
        some (found.scalar.text, colon.skip 1)
      else
        none
  | _, _ =>
      none

/-- The value of an entry at a column from the place behind its colon, and the token behind it. -/
def readEntryValue (column : Nat) (place : TokenStart) : Option (Scalar × TokenStart) :=
  let token := place.next
  if token.text.isEmpty || (token.startsLine && token.column ≤ column) then
    some (.empty, token)
  else do
    let found ← readScalar (column + 1) token
    some (found.scalar, found.after.next)

def readEntries (column : Nat) : (limit : Nat) → TokenStart → Option (List Entry)
  | 0, _ =>
      none
  | limit + 1, token => do
      let (name, place) ← readEntryName token
      let (scalar, after) ← readEntryValue column place
      if endsDocument after then
        some [⟨name, scalar⟩]
      else if after.startsLine && after.column == column && !after.startsMarkerLine then
        let entries ← readEntries column limit after
        some (⟨name, scalar⟩ :: entries)
      else
        none

/-- Read a pair of braces with nothing between them, from the first of them on. -/
def readEmptyBraces (token : TokenStart) : Option (List Entry) :=
  let inside := nextToken true false false (token.column + 1) (token.text.drop 1)
  match inside.text with
  | '\x7d' :: _ =>
      if endsDocument (inside.skip 1).next then some [] else none
  | _ =>
      none

/-- Read the entries that a document starts with at a token. -/
def readContent (token : TokenStart) : Option (List Entry) :=
  match token.text with
  | [] =>
      some []
  | '\x7b' :: _ =>
      readEmptyBraces token
  | text =>
      if token.startsLine then
        readEntries token.column text.length token
      else
        none

/-- Read a document that may start with a marker. -/
def readDocument (token : TokenStart) : Option (List Entry) :=
  if token.column == 0 && startsMarker '-' token.text then
    let content := (token.skip 3).next
    if endsDocument content then
      some []
    else if content.startsMarkerLine then
      none
    else
      readContent content
  else if token.column == 0 && startsMarker '.' token.text then
    none
  else
    readContent token

/-- The entries of a text, if it is a flat mapping. -/
def read (text : String) : Option (List Entry) :=
  let text := text.toList
  if text.all isAllowed then
    readDocument (TokenStart.next ⟨true, 0, unifyBreaks text⟩)
  else
    none

end LteNas.Yaml
