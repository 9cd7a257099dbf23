import LteNas.Proofs.Cipher.Payload
import LteNas.Proofs.Octets.Nibbles
import LteNas.Proofs.Octets.Window

namespace LteNas

/-!
# Keystreams by place

The keystream has no memory: its octet in a place is that of one enciphered
block, whose counter is a fixed number of steps behind the first one.  What holds
of ciphered data is read off octet by octet, for data of every length.
-/

/-! ## Numbers in a fixed number of octets -/

/-- What does not fit into the octets is lost. -/
theorem bigEndianOctets_mod
    (width number : Nat) :
    bigEndianOctets width (number % 256 ^ width) = bigEndianOctets width number := by
  induction width generalizing number with
  | zero =>
      rfl
  | succ width inductionHypothesis =>
      have divides : 256 ∣ 256 ^ (width + 1) :=
        Nat.dvd_mul_left 256 (256 ^ width)
      have lowest : number % 256 ^ (width + 1) % 256 = number % 256 :=
        Nat.mod_mod_of_dvd number divides
      have others : number % 256 ^ (width + 1) / 256 = number / 256 % 256 ^ width := by
        rw [Nat.pow_succ', Nat.mod_mul_right_div_self]
      rw [bigEndianOctets, bigEndianOctets, lowest, others, inductionHypothesis]

namespace CounterMode

/-! ## Blocks as numbers -/

/-- The number that a block holds, most significant octet first. -/
def blockNumber (held : Block) : Nat :=
  bigEndian held.toList

/-- The block that stands a number of steps behind a block, counted modulo 2¹²⁸. -/
def countOn (first : Block) (steps : Nat) : Block :=
  block ((blockNumber first + steps) % modulus)

theorem toList_block
    (number : Nat) :
    (block number).toList = bigEndianOctets 16 number := by
  apply List.ext_getElem?
  intro place
  by_cases within : place < 16
  · rw [bigEndianOctets_getElem? within]
    simp [block, within]
  · have behind : 16 ≤ place := by
      omega
    rw [List.getElem?_eq_none (by simpa using behind), List.getElem?_eq_none (by simpa using behind)]

/-- A block holds no more than a number modulo 2¹²⁸. -/
@[simp] theorem block_mod
    (number : Nat) :
    block (number % modulus) = block number := by
  rw [← Vector.toList_inj, toList_block, toList_block]
  exact bigEndianOctets_mod 16 number

@[simp] theorem blockNumber_block
    (number : Nat) :
    blockNumber (block number) = number % modulus := by
  have small : number % modulus < 256 ^ 16 :=
    Nat.mod_lt number (by decide)
  rw [← block_mod, blockNumber, toList_block, bigEndian_bigEndianOctets small]

/-! ## The first counter block -/

/--
The first counter block of a message in octets: the count, five bits of bearer
with one bit of direction behind them, and nothing else.
-/
def firstBlock (count : UInt32) (bearer direction : UInt8) : Block :=
  #v[
    (count >>> 24).toUInt8, (count >>> 16).toUInt8, (count >>> 8).toUInt8, count.toUInt8,
    (bearer &&& 0x1F) <<< 3 ||| (direction &&& 0x01) <<< 2, 0, 0, 0,
    0, 0, 0, 0,
    0, 0, 0, 0 ]

theorem bearerBits_eq
    (bearer : UInt8) :
    bearer &&& 0x1F = UInt8.ofNat (bearer.toNat % 32) := by
  revert bearer
  exact octet_forall (by decide +kernel)

theorem directionBit_eq
    (direction : UInt8) :
    direction &&& 0x01 = UInt8.ofNat (direction.toNat % 2) := by
  revert direction
  exact octet_forall (by decide +kernel)

theorem joined_bits :
    ∀ (bearer : Fin 32) (direction : Fin 2),
      (UInt8.ofNat bearer <<< 3 ||| UInt8.ofNat direction <<< 2).toNat =
        bearer * 8 + direction * 4 := by
  decide +kernel

/-- Bearer and direction share an octet without touching each other's bits. -/
theorem bearerOctet_toNat
    (bearer direction : UInt8) :
    ((bearer &&& 0x1F) <<< 3 ||| (direction &&& 0x01) <<< 2).toNat =
      bearer.toNat % 32 * 8 + direction.toNat % 2 * 4 := by
  rw [bearerBits_eq, directionBit_eq]
  exact joined_bits ⟨_, Nat.mod_lt _ (by decide)⟩ ⟨_, Nat.mod_lt _ (by decide)⟩

/-- The octets of the first block spell the first counter. -/
theorem blockNumber_firstBlock
    (count : UInt32)
    (bearer direction : UInt8) :
    blockNumber (firstBlock count bearer direction) = initialCounter count bearer direction := by
  have count_lt := count.toNat_lt
  simp only [blockNumber, firstBlock, bigEndian, Vector.toList_mk, List.foldl_cons,
    List.foldl_nil, bearerOctet_toNat, initialCounter, UInt32.toNat_toUInt8,
    UInt32.toNat_shiftRight, Nat.shiftRight_eq_div_pow, UInt8.toNat_zero, UInt32.reduceToNat,
    Nat.reduceMod, Nat.reducePow, Nat.pow_eq]
  omega

theorem countOn_firstBlock
    (count : UInt32)
    (bearer direction : UInt8)
    (steps : Nat) :
    countOn (firstBlock count bearer direction) steps =
      block (initialCounter count bearer direction + steps) := by
  rw [countOn, block_mod, blockNumber_firstBlock]

/-! ## Octets in their places -/

/-- The keystream block that stands a number of blocks behind the first one. -/
def keystreamBlock (encipher : Block → Block) (first : Block) (index : Nat) : Block :=
  encipher (countOn first index)

/-- The octet in a place of the keystream. -/
def keystreamOctet (encipher : Block → Block) (first : Block) (place : Nat) : UInt8 :=
  (keystreamBlock encipher first (place / 16))[place % 16]

section Places

variable (encipher : Block → Block)

theorem keystream_getElem?
    {blocks place : Nat}
    (within : place < 16 * blocks)
    (counter : Nat) :
    (keystream encipher blocks counter)[place]? =
      some (encipher (block (counter + place / 16)))[place % 16] := by
  induction blocks generalizing counter place with
  | zero =>
      omega
  | succ blocks inductionHypothesis =>
      rw [keystream]
      by_cases inFirst : place < 16
      · have isFirst : place / 16 = 0 := by
          omega
        have isPlace : place % 16 = place := by
          omega
        rw [List.getElem?_append_left (by simpa using inFirst)]
        simp [isFirst, isPlace, inFirst]
      · obtain ⟨behind, rfl⟩ : ∃ behind, place = behind + 16 :=
          ⟨place - 16, by omega⟩
        have counter_eq :
            block ((counter + 1) % modulus + behind / 16) =
              block (counter + (behind + 16) / 16) := by
          have total : counter + 1 + behind / 16 = counter + (behind + 16) / 16 := by
            omega
          rw [← block_mod, Nat.mod_add_mod, block_mod, total]
        rw [List.getElem?_append_right (by simp), Vector.length_toList, Nat.add_sub_cancel,
          inductionHypothesis (by omega), counter_eq]
        simp only [Nat.add_mod_right]

/-- Each octet is ciphered on its own, by the keystream octet in its place. -/
theorem cipher_getElem?
    (counter : Nat)
    (data : List UInt8)
    (place : Nat) :
    (cipher encipher counter data)[place]? =
      data[place]?.map (· ^^^ (encipher (block (counter + place / 16)))[place % 16]) := by
  rw [cipher, add, List.getElem?_zipWith]
  by_cases within : place < data.length
  · have covered : place < 16 * (data.length / 16 + 1) := by
      omega
    rw [keystream_getElem? encipher covered, List.getElem?_eq_getElem within]
    rfl
  · rw [List.getElem?_eq_none (by omega)]
    rfl

end Places

/-! ## Counter mode -/

/--
A cipher in counter mode adds to each octet the keystream octet in its place.  So
it keeps the length, takes itself back, and ciphers the front of data to the front
of what it ciphers the data to.
-/
structure IsCounterMode
    (encipher : Block → Block)
    (first : Block)
    (cipher : List UInt8 → List UInt8) :
    Prop where
  length_eq : ∀ data, (cipher data).length = data.length
  octet_eq :
    ∀ data place,
      (cipher data)[place]? = data[place]?.map (· ^^^ keystreamOctet encipher first place)
  undone : ∀ data, cipher (cipher data) = data
  take_eq : ∀ data count, cipher (data.take count) = (cipher data).take count

/-- The front of data is ciphered as if nothing stood behind it. -/
theorem cipher_take
    (encipher : Block → Block)
    (counter : Nat)
    (data : List UInt8)
    (count : Nat) :
    cipher encipher counter (data.take count) = (cipher encipher counter data).take count := by
  apply List.ext_getElem?
  intro place
  rw [cipher_getElem?]
  by_cases within : place < count
  · rw [List.getElem?_take_of_lt within, List.getElem?_take_of_lt within, cipher_getElem?]
  · have behind : count ≤ place := by
      omega
    rw [List.getElem?_take_eq_none behind, List.getElem?_take_eq_none behind]
    rfl

/-- Ciphering from the first counter of a message is counter mode, whatever enciphers the blocks. -/
theorem cipher_isCounterMode
    (encipher : Block → Block)
    (count : UInt32)
    (bearer direction : UInt8) :
    IsCounterMode encipher (firstBlock count bearer direction)
      (cipher encipher (initialCounter count bearer direction)) where
  length_eq := cipher_length encipher _
  octet_eq := by
    intro data place
    rw [cipher_getElem?]
    simp only [keystreamOctet, keystreamBlock, countOn_firstBlock]
  undone := cipher_cipher encipher _
  take_eq := cipher_take encipher _

end CounterMode

/--
The algorithm 128-EEA2 is counter mode from the block of count, bearer and
direction.  That holds of every function of a key and a block in place of AES.
-/
theorem aesCipher_isCounterMode
    (count : UInt32)
    (bearer direction : UInt8)
    (key : Block) :
    CounterMode.IsCounterMode
        (Aes.encipher key)
        (CounterMode.firstBlock count bearer direction)
        (aesCipher count bearer direction key) ∧
      ∀ encipher : Block → Block → Block,
        CounterMode.IsCounterMode
          (encipher key)
          (CounterMode.firstBlock count bearer direction)
          (CounterMode.cipher
            (encipher key)
            (CounterMode.initialCounter count bearer direction)) := by
  constructor
  · exact CounterMode.cipher_isCounterMode (Aes.encipher key) count bearer direction
  · intro encipher
    exact CounterMode.cipher_isCounterMode (encipher key) count bearer direction

end LteNas
