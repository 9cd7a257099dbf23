import LteNas.Cipher.Aes
import LteNas.Octets.Window

namespace LteNas

/-!
# Counter mode

A keystream is the enciphered sequence of counter blocks, and ciphering adds it
to the data octet by octet, so that ciphering twice gives the data back.  The
counter of 128-EEA2 starts with the message count, the bearer and the direction.
-/

namespace CounterMode

/-- The number of values of a counter block. -/
def modulus : Nat :=
  Nat.pow 2 128

/-- The block that holds a number, most significant octet first. -/
def block (number : Nat) : Block :=
  Vector.ofFn fun place => UInt8.ofNat (number / Nat.pow 256 (15 - place.val))

/--
The first counter of a message: the count, five bits of bearer and one bit of
direction fill the upper 38 bits.
-/
def initialCounter (count : UInt32) (bearer direction : UInt8) : Nat :=
  count.toNat * Nat.pow 2 96 + bearer.toNat % 32 * Nat.pow 2 91 +
    direction.toNat % 2 * Nat.pow 2 90

def keystream (encipher : Block → Block) : (blocks counter : Nat) → List UInt8
  | 0, _ =>
      []
  | blocks + 1, counter =>
      (encipher (block counter)).toList ++
        keystream encipher blocks ((counter + 1) % modulus)

/-- Add a keystream to data, which may be shorter. -/
def add (data keystream : List UInt8) : List UInt8 :=
  data.zipWith (· ^^^ ·) keystream

def cipher (encipher : Block → Block) (counter : Nat) (data : List UInt8) : List UInt8 :=
  add data (keystream encipher (data.length / 16 + 1) counter)

end CounterMode

/-- The null algorithm 128-EEA0 leaves data alone. -/
def nullCipher (data : List UInt8) : List UInt8 :=
  data

/-- The algorithm 128-EEA2: AES in counter mode; deciphering is ciphering again. -/
def aesCipher
    (count : UInt32)
    (bearer direction : UInt8)
    (key : Block)
    (data : List UInt8) :
    List UInt8 :=
  CounterMode.cipher
    (Aes.encipher key)
    (CounterMode.initialCounter count bearer direction)
    data

end LteNas
