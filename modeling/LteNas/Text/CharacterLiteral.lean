import LteNas.Text.Digits

namespace LteNas.Text

/-!
# Quoted octets

An octet that is out of place in a text is shown as the Latin-1 character of
its value, in single quotes.
-/

/-- The Latin-1 characters that have no visible form of their own. -/
def isInvisible (octet : UInt8) : Bool :=
  octet < 0x20 || (0x7F ≤ octet && octet ≤ 0xA0) || octet == 0xAD

/--
The characters that stand for an octet between single quotes: the usual
escapes, a code point in braces for an invisible character, and else the
character itself.
-/
def escapeOctet (octet : UInt8) : String :=
  if octet == 0x00 then "\\0"
  else if octet == 0x09 then "\\t"
  else if octet == 0x0A then "\\n"
  else if octet == 0x0D then "\\r"
  else if octet == 0x27 then "\\'"
  else if octet == 0x5C then "\\\\"
  else if isInvisible octet then
    "\\u\x7b" ++ hexadecimal 1 octet.toNat ++ "\x7d"
  else
    String.singleton (Char.ofNat octet.toNat)

/-- An octet as a quoted Latin-1 character. -/
def quoteOctet (octet : UInt8) : String :=
  "'" ++ escapeOctet octet ++ "'"

end LteNas.Text
