import LteNas.Yaml.Scalar

namespace LteNas.Yaml

/-!
# Typed scalars

What the text of a plain scalar means: null, a truth value, an integer in one of
four bases, or a decimal fraction.
-/

def isNull (text : String) : Bool :=
  text == "" || text == "~" || text == "null" || text == "Null" || text == "NULL"

def truth? (text : String) : Option Bool :=
  match text with
  | "true" => some true
  | "True" => some true
  | "TRUE" => some true
  | "false" => some false
  | "False" => some false
  | "FALSE" => some false
  | _ => none

/-! ## Integers -/

/-- The number that digits spell in a base; there must be one. -/
def digitsValue? (base : Nat) (digits : List Char) : Option Nat :=
  if digits.isEmpty then
    none
  else
    digits.foldlM (fun number digit => do
      let value ← digitValue? digit
      if value < base then some (number * base + value) else none) 0

/-- The base that two characters announce, and the digits behind them. -/
def markedBase? : List Char → Option (Nat × List Char)
  | '0' :: 'x' :: digits => some (16, digits)
  | '0' :: 'o' :: digits => some (8, digits)
  | '0' :: 'b' :: digits => some (2, digits)
  | _ => none

/-- Decimal digits that start with a needless zero. -/
def hasNeedlessZero : List Char → Bool
  | '0' :: digit :: digits => (digit :: digits).all Char.isDigit
  | _ => false

/-- The size of an integer without sign; a needless zero makes it none. -/
def magnitude? (digits : List Char) : Option Nat :=
  match markedBase? digits with
  | some (base, marked) => digitsValue? base marked
  | none => if hasNeedlessZero digits then none else digitsValue? 10 digits

def isSign (character : Char) : Bool :=
  character == '+' || character == '-'

def integer? (text : List Char) : Option Int :=
  match text with
  | '-' :: digits => (magnitude? digits).map fun size => -Int.ofNat size
  | '+' :: digits => (magnitude? digits).map Int.ofNat
  | digits => (magnitude? digits).map Int.ofNat

/-- The natural number of a text, if it fits a word of 64 bits. -/
def natural? (text : String) : Option Nat :=
  match integer? text.toList with
  | some (.ofNat number) =>
      if number < Nat.pow 2 64 ∧ text.toList.head? ≠ some '-' then some number else none
  | _ =>
      none

/-- The integer fits a word of 128 bits, with sign or without. -/
def isWideInteger (text : List Char) : Bool :=
  match integer? text with
  | some number => -Int.ofNat (Nat.pow 2 127) ≤ number && number < Int.ofNat (Nat.pow 2 128)
  | none => false

/-! ## Decimal fractions -/

/-- Digits in front of a text, and the text behind them. -/
def spanDigits (text : List Char) : List Char × List Char :=
  text.span Char.isDigit

/-- The digits behind a point, and what follows them; without a point there are none. -/
def fractionDigits : List Char → List Char × List Char
  | '.' :: text => spanDigits text
  | text => ([], text)

/-- The exponent that fills a text; an empty text is the exponent zero. -/
def exponent? : List Char → Option Int
  | [] => some 0
  | letter :: text =>
      if letter == 'e' || letter == 'E' then
        match text with
        | '-' :: digits => (wholeDigits? digits).map fun size => -Int.ofNat size
        | '+' :: digits => (wholeDigits? digits).map Int.ofNat
        | digits => (wholeDigits? digits).map Int.ofNat
      else
        none
where
  /-- The number of a text that is all decimal digits. -/
  wholeDigits? (digits : List Char) : Option Nat :=
    if digits.all Char.isDigit then digitsValue? 10 digits else none

/-- A number as digits and a power of ten. -/
structure Decimal where
  digits : Nat
  power : Int
  deriving Repr, DecidableEq

/-- The decimal number of a text without sign; there must be a digit around the point. -/
def decimal? (text : List Char) : Option Decimal := do
  let (whole, rest) := spanDigits text
  let (fraction, rest) := fractionDigits rest
  let digits ← digitsValue? 10 (whole ++ fraction)
  let exponent ← exponent? rest
  some ⟨digits, exponent - fraction.length⟩

/-- The least number that a double no longer rounds to a finite value. -/
def doubleLimit : Nat :=
  Nat.pow 2 1024 - Nat.pow 2 970

def digitCount (number : Nat) : Nat :=
  (Nat.toDigits 10 number).length

/-- The number is below the limit of doubles. -/
def Decimal.isFinite (decimal : Decimal) : Bool :=
  let places := decimal.power + digitCount decimal.digits
  if decimal.digits = 0 ∨ places < 300 then true
  else if 320 < places then false
  else if 0 ≤ decimal.power then
    decimal.digits * Nat.pow 10 decimal.power.toNat < doubleLimit
  else
    decimal.digits < doubleLimit * Nat.pow 10 (-decimal.power).toNat

/-- The names of the numbers that are not finite. -/
def specialNumbers : List String :=
  [ ".inf", ".Inf", ".INF", "+.inf", "+.Inf", "+.INF", "-.inf", "-.Inf", "-.INF",
    ".nan", ".NaN", ".NAN" ]

/-- The text of a decimal fraction that a double can hold. -/
def isFraction (text : List Char) : Bool :=
  let unsigned := if text.head?.any isSign then text.drop 1 else text
  !hasNeedlessZero unsigned && (decimal? unsigned).any Decimal.isFinite

/-- A plain scalar of this text means something else than the text. -/
def isTyped (text : String) : Bool :=
  let characters := text.toList
  let unsigned := if characters.head?.any isSign then characters.drop 1 else characters
  isNull text || (truth? text).isSome || isWideInteger characters ||
    specialNumbers.contains text || isFraction characters || hasNeedlessZero unsigned

/-! ## Fields of settings -/

namespace Scalar

/-- The truth value of a plain scalar. -/
def truth? (scalar : Scalar) : Option Bool :=
  if scalar.isPlain then Yaml.truth? scalar.text else none

/-- The natural number of a plain scalar. -/
def natural? (scalar : Scalar) : Option Nat :=
  if scalar.isPlain then Yaml.natural? scalar.text else none

/-- The text of a scalar that is not null. -/
def optional (scalar : Scalar) : Option String :=
  if scalar.isPlain && isNull scalar.text then none else some scalar.text

end Scalar

end LteNas.Yaml
