import LteNas.Octets.Hex

namespace LteNas

/-!
# Hex dumps

Octets laid out for a reader: rows of sixteen with offset, hexadecimal and text
columns, or one line of groups.
-/

namespace HexDump

def rowLength : Nat :=
  16

/-- Cut a list into pieces of `size` items, the last of which may be shorter. -/
def chunks (size : Nat) (items : List α) : List (List α) :=
  cut items.length items
where
  /-- Cut at most `count` pieces. -/
  cut : Nat → List α → List (List α)
    | 0, _ => []
    | _, [] => []
    | count + 1, item :: items =>
        (item :: items).take size :: cut count ((item :: items).drop size)

/-- The hexadecimal cell of one place of a row: two digits and a space, or blanks. -/
def cell : Option UInt8 → List Char
  | some octet =>
      Hex.digits octet ++ [' ']
  | none =>
      [' ', ' ', ' ']

/-- The hexadecimal column: sixteen cells with a gap in the middle. -/
def hexColumn (row : List UInt8) : List Char :=
  (List.range rowLength).flatMap fun place =>
    (if place = 8 then [' '] else []) ++ cell row[place]?

/-- Printable ASCII stands for itself, any other octet for a point. -/
def visible (octet : UInt8) : Char :=
  if 0x20 ≤ octet && octet ≤ 0x7E then Char.ofNat octet.toNat else '.'

def rowText (offset : Nat) (row : List UInt8) : String :=
  Text.hexadecimal 8 offset ++ "  " ++ String.ofList (hexColumn row) ++ " |" ++
    String.ofList (row.map visible) ++ "|"

def rows (octets : List UInt8) : List String :=
  (chunks rowLength octets).mapIdx fun number row =>
    rowText (number * rowLength) row

/-- The dump of octets, one row a line. -/
def text (octets : List UInt8) : String :=
  if octets.isEmpty then "(empty)" else "\n".intercalate (rows octets)

/-- One line of hexadecimal groups of `group` octets; zero asks for a single group. -/
def compact (octets : List UInt8) (group : Nat) : String :=
  if group = 0 then
    Hex.encode octets
  else
    " ".intercalate ((chunks group octets).map Hex.encode)

end HexDump

end LteNas
