namespace LteNas.Text

/-!
# Lines of text

A line ends with a line feed, and a carriage return in front of it belongs to
the end.  The last line may do without an end.
-/

/-- A line without the carriage return in front of its end. -/
def dropCarriageReturn (line : List Char) : List Char :=
  if line.getLast? = some '\r' then line.dropLast else line

/-- The lines of text behind the characters of a line that has begun, last character first. -/
def linesAfter : (begun : List Char) → List Char → List (List Char)
  | [], [] =>
      []
  | begun, [] =>
      [begun.reverse]
  | begun, '\n' :: text =>
      dropCarriageReturn begun.reverse :: linesAfter [] text
  | begun, character :: text =>
      linesAfter (character :: begun) text

def lines (text : String) : List String :=
  (linesAfter [] text.toList).map String.ofList

end LteNas.Text
