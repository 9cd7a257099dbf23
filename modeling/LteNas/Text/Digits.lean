namespace LteNas.Text

/-!
# Digits of numbers

Decimal and hexadecimal text of a least width, padded with zeros.
-/

/-- Put zeros in front of digits that are fewer than `width`. -/
def padZeros (width : Nat) (digits : List Char) : String :=
  String.ofList (List.replicate (width - digits.length) '0' ++ digits)

def decimal (width number : Nat) : String :=
  padZeros width (Nat.toDigits 10 number)

/-- Lower-case hexadecimal text of at least `width` digits. -/
def hexadecimal (width number : Nat) : String :=
  padZeros width (Nat.toDigits 16 number)

end LteNas.Text
