namespace LteNas.Text

/-!
# Reading UTF-8

Octets become text.  Where octets are no UTF-8, each longest run that starts a
character and cannot be completed becomes one replacement character.
-/

/-- The character that stands for octets that spell none. -/
def replacement : Char :=
  '\ufffd'

/-- What the first octet of a character promises. -/
structure Utf8Lead where
  /-- The bits that the first octet contributes. -/
  bits : Nat
  /-- The number of octets that must follow. -/
  owed : Nat
  /-- The least value of the octet that follows first. -/
  low : UInt8
  /-- The greatest value of the octet that follows first. -/
  high : UInt8
  deriving Repr, DecidableEq

/-- The promise of a first octet, if a character may start with it. -/
def Utf8Lead.ofOctet? (octet : UInt8) : Option Utf8Lead :=
  let code := octet.toNat
  if code < 0x80 then some ⟨code, 0, 0x80, 0xBF⟩
  else if code < 0xC2 then none
  else if code < 0xE0 then some ⟨code - 0xC0, 1, 0x80, 0xBF⟩
  else if code = 0xE0 then some ⟨0, 2, 0xA0, 0xBF⟩
  else if code = 0xED then some ⟨0xD, 2, 0x80, 0x9F⟩
  else if code < 0xF0 then some ⟨code - 0xE0, 2, 0x80, 0xBF⟩
  else if code = 0xF0 then some ⟨0, 3, 0x90, 0xBF⟩
  else if code < 0xF4 then some ⟨code - 0xF0, 3, 0x80, 0xBF⟩
  else if code = 0xF4 then some ⟨4, 3, 0x80, 0x8F⟩
  else none

/--
Read on inside a character that owes octets.  Each octet is either the next one
owed, or it ends the character early and is read as a first octet.
-/
def readUtf8From : Option Utf8Lead → List UInt8 → List Char
  | none, [] =>
      []
  | some _, [] =>
      [replacement]
  | none, octet :: octets =>
      start octet octets
  | some lead, octet :: octets =>
      if lead.low ≤ octet && octet ≤ lead.high then
        let bits := lead.bits * 64 + (octet.toNat - 0x80)
        if lead.owed ≤ 1 then
          Char.ofNat bits :: readUtf8From none octets
        else
          readUtf8From (some ⟨bits, lead.owed - 1, 0x80, 0xBF⟩) octets
      else
        replacement :: start octet octets
where
  /-- Read a first octet and what follows it. -/
  start (octet : UInt8) (octets : List UInt8) : List Char :=
    match Utf8Lead.ofOctet? octet with
    | none =>
        replacement :: readUtf8From none octets
    | some lead =>
        if lead.owed = 0 then
          Char.ofNat lead.bits :: readUtf8From none octets
        else
          readUtf8From (some lead) octets

def readUtf8 (octets : List UInt8) : String :=
  String.ofList (readUtf8From none octets)

end LteNas.Text
