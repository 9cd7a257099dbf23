import LteNas.Proofs.Cipher.Keystream
import LteNas.Proofs.Cipher.Permutation

namespace LteNas

/-!
# Counter blocks of different messages

The first counter of a message leaves its low 90 bits free.  As long as a message
has no more blocks than these bits can count, its counters belong to it alone, and
with them the blocks of its keystream.
-/

namespace CounterMode

/-- The number of blocks that fit between the first counters of two messages. -/
def messageBlocks : Nat :=
  2 ^ 90

/-- The parameters of two messages agree, as far as they enter the counter. -/
structure ParametersAgree
    (count otherCount : UInt32)
    (bearer otherBearer direction otherDirection : UInt8) :
    Prop where
  count_eq : count = otherCount
  bearer_eq : bearer.toNat % 32 = otherBearer.toNat % 32
  direction_eq : direction.toNat % 2 = otherDirection.toNat % 2

section Counters

variable {count otherCount : UInt32} {bearer otherBearer direction otherDirection : UInt8}
variable {index otherIndex : Nat}

/-- The last counter of a message is a block like all others. -/
theorem initialCounter_add_lt
    (small : index < messageBlocks) :
    initialCounter count bearer direction + index < modulus := by
  have count_lt := count.toNat_lt
  simp only [messageBlocks, initialCounter, modulus, Nat.pow_eq, Nat.reducePow] at small ⊢
  omega

/-- Count, bearer, direction and index have bits of their own in a counter. -/
theorem initialCounter_add_inj
    (small : index < messageBlocks)
    (otherSmall : otherIndex < messageBlocks) :
    initialCounter count bearer direction + index =
        initialCounter otherCount otherBearer otherDirection + otherIndex ↔
      ParametersAgree count otherCount bearer otherBearer direction otherDirection ∧
        index = otherIndex := by
  simp only [messageBlocks] at small otherSmall
  simp only [initialCounter, Nat.pow_eq, Nat.reducePow]
  constructor
  · intro same
    have count_eq : count.toNat = otherCount.toNat := by
      omega
    have bearer_eq : bearer.toNat % 32 = otherBearer.toNat % 32 := by
      omega
    have direction_eq : direction.toNat % 2 = otherDirection.toNat % 2 := by
      omega
    exact ⟨⟨UInt32.toNat_inj.mp count_eq, bearer_eq, direction_eq⟩, by omega⟩
  · rintro ⟨⟨rfl, bearer_eq, direction_eq⟩, rfl⟩
    rw [bearer_eq, direction_eq]

/-- A counter block is known by its number. -/
theorem block_inj
    {number otherNumber : Nat}
    (small : number < modulus)
    (otherSmall : otherNumber < modulus) :
    block number = block otherNumber ↔ number = otherNumber := by
  constructor
  · intro same
    have numbers := congrArg blockNumber same
    rwa [blockNumber_block, blockNumber_block, Nat.mod_eq_of_lt small,
      Nat.mod_eq_of_lt otherSmall] at numbers
  · rintro rfl
    rfl

/-- Under one key, blocks of two messages are enciphered alike only if they are one block. -/
theorem keystreamBlock_inj
    (key first otherFirst : Block) :
    keystreamBlock (Aes.encipher key) first index =
        keystreamBlock (Aes.encipher key) otherFirst otherIndex ↔
      countOn first index = countOn otherFirst otherIndex :=
  (Aes.encipher_injective key).eq_iff

end Counters

/--
Counters of messages, and the blocks of their keystreams under one key, are equal
only if count, bearer, direction and index are.
-/
theorem counters_eq_iff
    {count otherCount : UInt32}
    {bearer otherBearer direction otherDirection : UInt8}
    {index otherIndex : Nat}
    (small : index < messageBlocks)
    (otherSmall : otherIndex < messageBlocks) :
    let first := firstBlock count bearer direction
    let otherFirst := firstBlock otherCount otherBearer otherDirection
    let agree :=
      ParametersAgree count otherCount bearer otherBearer direction otherDirection ∧
        index = otherIndex
    ((blockNumber first + index) % modulus = (blockNumber otherFirst + otherIndex) % modulus ↔
        agree) ∧
      ∀ key,
        keystreamBlock (Aes.encipher key) first index =
            keystreamBlock (Aes.encipher key) otherFirst otherIndex ↔
          agree := by
  intro first otherFirst agree
  have within : initialCounter count bearer direction + index < modulus :=
    initialCounter_add_lt small
  have otherWithin :
      initialCounter otherCount otherBearer otherDirection + otherIndex < modulus :=
    initialCounter_add_lt otherSmall
  constructor
  · rw [blockNumber_firstBlock, blockNumber_firstBlock, Nat.mod_eq_of_lt within,
      Nat.mod_eq_of_lt otherWithin]
    exact initialCounter_add_inj small otherSmall
  · intro key
    rw [keystreamBlock_inj, countOn_firstBlock, countOn_firstBlock, block_inj within otherWithin]
    exact initialCounter_add_inj small otherSmall

/--
The last block of the longest uplink message has the counter in front of the first
one of the downlink message that has the same count and bearer, and not that one.
-/
theorem counters_eq_iff_neighbours :
    let last := 2 ^ 90 - 1
    let uplink := firstBlock 0xFFFFFFFF 31 0
    let downlink := firstBlock 0xFFFFFFFF 31 1
    (last < messageBlocks ∧ 0 < messageBlocks) ∧
      blockNumber uplink + last + 1 = blockNumber downlink ∧
      (blockNumber uplink + last) % modulus ≠ (blockNumber downlink + 0) % modulus ∧
      ∀ key,
        keystreamBlock (Aes.encipher key) uplink last ≠
          keystreamBlock (Aes.encipher key) downlink 0 := by
  intro last uplink downlink
  have small : last < messageBlocks := by
    decide
  have none_lt : 0 < messageBlocks := by
    decide
  have apart :
      ¬ (ParametersAgree 0xFFFFFFFF 0xFFFFFFFF 31 31 0 1 ∧ last = 0) := by
    rintro ⟨⟨-, -, direction_eq⟩, -⟩
    exact absurd direction_eq (by decide)
  obtain ⟨numbers, streams⟩ :=
    @counters_eq_iff 0xFFFFFFFF 0xFFFFFFFF 31 31 0 1 last 0 small none_lt
  refine ⟨⟨small, none_lt⟩, by decide, ?_, ?_⟩
  · exact fun same => apart (numbers.mp same)
  · exact fun key same => apart ((streams key).mp same)

end CounterMode

end LteNas
