import LteNas.Text.Digits

namespace LteNas

/-!
# Networks and tracking areas

A public land mobile network is named by a country code of three digits and a
network code of two or three.  On the wire the digits are nibbles of three
octets, the low nibble first, and a network code of two digits has the filler
0xF in place of its third.
-/

/-- A network identity: country code, network code and the length of the latter. -/
structure Plmn where
  countryCode : Nat
  networkCode : Nat
  hasLongNetworkCode : Bool
  deriving Repr, DecidableEq

/-- A network identity and a tracking area code. -/
structure TrackingArea where
  plmn : Plmn
  code : UInt16
  deriving Repr, DecidableEq

def lowNibble (octet : UInt8) : UInt8 :=
  octet &&& 0x0F

def highNibble (octet : UInt8) : UInt8 :=
  octet >>> 4

def joinNibbles (high low : UInt8) : UInt8 :=
  high <<< 4 ||| low

namespace Plmn

/-- The nibble in place of a third digit that a network code does not have. -/
def filler : UInt8 :=
  0x0F

/-- The number that three digits spell; nibbles above nine count as they are. -/
def threeDigits (first second third : UInt8) : Nat :=
  100 * first.toNat + 10 * second.toNat + third.toNat

/-- Read a network identity from its three octets. -/
def ofOctets (octet1 octet2 octet3 : UInt8) : Plmn :=
  let countryCode :=
    threeDigits (lowNibble octet1) (highNibble octet1) (lowNibble octet2)
  let first := lowNibble octet3
  let second := highNibble octet3
  let third := highNibble octet2
  if third = filler then
    ⟨countryCode, 10 * first.toNat + second.toNat, false⟩
  else
    ⟨countryCode, threeDigits first second third, true⟩

/-- The decimal digit of a number at a power of ten. -/
def digitAt (number power : Nat) : UInt8 :=
  UInt8.ofNat (number / power % 10)

/-- The three octets of a network identity. -/
def toOctets (plmn : Plmn) : List UInt8 :=
  let country := digitAt plmn.countryCode
  let network := digitAt plmn.networkCode
  let (first, second, third) :=
    if plmn.hasLongNetworkCode then
      (network 100, network 10, network 1)
    else
      (network 10, network 1, filler)
  [ joinNibbles (country 10) (country 100),
    joinNibbles third (country 1),
    joinNibbles second first ]

/-- Both codes have at most three decimal digits. -/
def isDecimal (plmn : Plmn) : Bool :=
  plmn.countryCode ≤ 999 && plmn.networkCode ≤ 999

/-- Country code and network code, each in its own number of digits. -/
def text (plmn : Plmn) : String :=
  let width := if plmn.hasLongNetworkCode then 3 else 2
  Text.decimal 3 plmn.countryCode ++ "-" ++ Text.decimal width plmn.networkCode

end Plmn

/-- The network identity and the area code in hexadecimal. -/
def TrackingArea.text (area : TrackingArea) : String :=
  area.plmn.text ++ "/0x" ++ Text.hexadecimal 4 area.code.toNat

end LteNas
