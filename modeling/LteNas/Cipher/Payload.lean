import LteNas.Cipher.CounterMode
import LteNas.Link
import LteNas.Protocol.Discriminator

namespace LteNas

/-!
# Ciphered payloads

The payload of a ciphered message is deciphered with the configured key, or
taken as it is where null deciphering is asked for.  Only the sequence number of
the message count is on the wire, so the overflow part of the count is zero.
-/

/-- The algorithms that a payload can be deciphered with. -/
inductive CipherAlgorithm where
  | null
  | aes
  deriving Repr, DecidableEq

/-- What deciphering a payload depends on. -/
structure PayloadCipher where
  key : Option Block
  nullDecipher : Bool
  direction : Direction
  sequenceNumber : UInt8
  deriving Repr

namespace PayloadCipher

/-- Signalling always uses bearer zero. -/
def bearer : UInt8 :=
  0

def count (cipher : PayloadCipher) : UInt32 :=
  cipher.sequenceNumber.toUInt32

/-- The algorithm that applies: a key asks for AES, else null deciphering may be on. -/
def algorithm? (cipher : PayloadCipher) : Option CipherAlgorithm :=
  match cipher.key with
  | some _ => some .aes
  | none => if cipher.nullDecipher then some .null else none

/-- The payload under the algorithm that applies. -/
def transform? (cipher : PayloadCipher) (payload : List UInt8) : Option (List UInt8) :=
  match cipher.key with
  | some key =>
      some (aesCipher cipher.count bearer cipher.direction.bit key payload)
  | none =>
      if cipher.nullDecipher then some (nullCipher payload) else none

/-- Octets that start like a message of a known protocol. -/
def startsMessage (octets : List UInt8) : Bool :=
  octets.head?.any Protocol.isKnownStart

/-- The plain payload, if an algorithm applies and gives octets that start like a message. -/
def decipher? (cipher : PayloadCipher) (payload : List UInt8) : Option (List UInt8) :=
  (cipher.transform? payload).filter startsMessage

end PayloadCipher

end LteNas
