import LteNas.Text.Utf8

namespace LteNas.Text

/-!
# Reading UTF-16

Big-endian pairs of octets are code units.  A high and a low surrogate in a row
are one character; a surrogate alone becomes the replacement character.
-/

/-- The code units of pairs of octets; an odd octet at the end is left out. -/
def codeUnits : List UInt8 → List Nat
  | high :: low :: octets =>
      (high.toNat * 256 + low.toNat) :: codeUnits octets
  | _ =>
      []

/-- The unit opens a surrogate pair. -/
def isHighSurrogate (codeUnit : Nat) : Bool :=
  0xD800 ≤ codeUnit && codeUnit < 0xDC00

/-- The unit closes a surrogate pair. -/
def isLowSurrogate (codeUnit : Nat) : Bool :=
  0xDC00 ≤ codeUnit && codeUnit < 0xE000

/-- The character of a surrogate pair. -/
def ofSurrogates (high low : Nat) : Char :=
  Char.ofNat (0x10000 + (high - 0xD800) * 0x400 + (low - 0xDC00))

/-- Read units, the first argument being a high surrogate that waits for its low one. -/
def readUtf16From : Option Nat → List Nat → List Char
  | none, [] =>
      []
  | some _, [] =>
      [replacement]
  | none, codeUnit :: codeUnits =>
      if isHighSurrogate codeUnit then
        readUtf16From (some codeUnit) codeUnits
      else if isLowSurrogate codeUnit then
        replacement :: readUtf16From none codeUnits
      else
        Char.ofNat codeUnit :: readUtf16From none codeUnits
  | some high, codeUnit :: codeUnits =>
      if isLowSurrogate codeUnit then
        ofSurrogates high codeUnit :: readUtf16From none codeUnits
      else if isHighSurrogate codeUnit then
        replacement :: readUtf16From (some codeUnit) codeUnits
      else
        replacement :: Char.ofNat codeUnit :: readUtf16From none codeUnits

/-- The text of big-endian code units. -/
def readUtf16 (octets : List UInt8) : String :=
  String.ofList (readUtf16From none (codeUnits octets))

end LteNas.Text
