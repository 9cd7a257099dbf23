namespace LteNas.Text

/-!
# The GSM 7 bit default alphabet

Text of seven bits a character, packed least significant bit first, so that
eight characters fill seven octets.
-/

/-- The characters of the default alphabet in the order of their septets. -/
def defaultAlphabet : List Char :=
  [ '@', '£', '$', '¥', 'è', 'é', 'ù', 'ì', 'ò', 'Ç', '\n', 'Ø', 'ø', '\r', 'Å', 'å',
    'Δ', '_', 'Φ', 'Γ', 'Λ', 'Ω', 'Π', 'Ψ', 'Σ', 'Θ', 'Ξ', '\x1b', 'Æ', 'æ', 'ß', 'É',
    ' ', '!', '"', '#', '¤', '%', '&', '\'', '(', ')', '*', '+', ',', '-', '.', '/',
    '0', '1', '2', '3', '4', '5', '6', '7', '8', '9', ':', ';', '<', '=', '>', '?',
    '¡', 'A', 'B', 'C', 'D', 'E', 'F', 'G', 'H', 'I', 'J', 'K', 'L', 'M', 'N', 'O',
    'P', 'Q', 'R', 'S', 'T', 'U', 'V', 'W', 'X', 'Y', 'Z', 'Ä', 'Ö', 'Ñ', 'Ü', '§',
    '¿', 'a', 'b', 'c', 'd', 'e', 'f', 'g', 'h', 'i', 'j', 'k', 'l', 'm', 'n', 'o',
    'p', 'q', 'r', 's', 't', 'u', 'v', 'w', 'x', 'y', 'z', 'ä', 'ö', 'ñ', 'ü', 'à' ]

def septetCharacter (septet : Nat) : Char :=
  defaultAlphabet.getD septet '@'

/-- The number that octets spell, least significant octet first. -/
def littleEndian (octets : List UInt8) : Nat :=
  octets.foldr (fun octet number => octet.toNat + 256 * number) 0

/-- The lowest `count` septets of a number, lowest first. -/
def septets : Nat → Nat → List Nat
  | 0, _ => []
  | count + 1, number =>
      number % 128 :: septets count (number / 128)

/-- The text of the first `count` septets of packed octets. -/
def unpackSeptets (octets : List UInt8) (count : Nat) : String :=
  String.ofList ((septets count (littleEndian octets)).map septetCharacter)

/-- The number of septets in octets whose last `spareBits` bits are unused. -/
def septetCount (octets spareBits : Nat) : Nat :=
  (octets * 8 - spareBits) / 7

end LteNas.Text
