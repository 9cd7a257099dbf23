import LteNas.Cipher.Aes
import LteNas.Proofs.Octets.Nibbles
import Mathlib.Data.List.Nodup

namespace LteNas

/-!
# AES is a permutation of the blocks

Every step of a round can be taken back, so under one key no two blocks are
enciphered to the same block.  The mixing polynomial has order four: columns that
are mixed four times are what they were.
-/

namespace Aes

/-! ## Cells -/

@[simp] theorem cell_ofCells
    (octet : Nat → Nat → UInt8)
    (column row : Nat) :
    cell (ofCells octet) column row = octet (column % 4) (row % 4) := by
  have column_eq : (4 * (column % 4) + row % 4) / 4 = column % 4 := by
    omega
  have row_eq : (4 * (column % 4) + row % 4) % 4 = row % 4 := by
    omega
  simp only [cell, ofCells, Vector.getElem_ofFn, column_eq, row_eq]

/-- Columns and rows are counted modulo four. -/
theorem cell_congr
    (block : Block)
    {column otherColumn row otherRow : Nat}
    (sameColumn : column % 4 = otherColumn % 4)
    (sameRow : row % 4 = otherRow % 4) :
    cell block column row = cell block otherColumn otherRow := by
  simp only [cell, sameColumn, sameRow]

/-- A block is known by its cells. -/
theorem eq_of_cells
    {left right : Block}
    (same : ∀ column row, cell left column row = cell right column row) :
    left = right := by
  apply Vector.ext
  intro place within
  have place_eq : 4 * (place / 4 % 4) + place % 4 % 4 = place := by
    omega
  have here := same (place / 4) (place % 4)
  simpa only [cell, place_eq] using here

/-! ## Substitution and rotation -/

/-- No octet stands twice in a list or is marked already: its bit of the marks is not set. -/
def areFresh : (marks : Nat) → List UInt8 → Bool
  | _, [] =>
      true
  | marks, octet :: octets =>
      !marks.testBit octet.toNat && areFresh (marks ||| 1 <<< octet.toNat) octets

theorem nodup_of_areFresh
    {marks : Nat}
    {octets : List UInt8}
    (fresh : areFresh marks octets = true) :
    octets.Nodup ∧ ∀ octet ∈ octets, marks.testBit octet.toNat = false := by
  induction octets generalizing marks with
  | nil =>
      simp
  | cons octet octets inductionHypothesis =>
      rw [areFresh, Bool.and_eq_true, Bool.not_eq_true'] at fresh
      obtain ⟨unmarked, othersFresh⟩ := fresh
      obtain ⟨distinct, othersUnmarked⟩ := inductionHypothesis othersFresh
      have apart : ∀ other ∈ octets, marks.testBit other.toNat = false ∧ octet ≠ other := by
        intro other member
        have unset := othersUnmarked other member
        rw [Nat.testBit_or, Bool.or_eq_false_iff] at unset
        refine ⟨unset.1, ?_⟩
        rintro rfl
        simp [Nat.testBit_shiftLeft] at unset
      constructor
      · exact List.nodup_cons.mpr ⟨fun member => (apart octet member).2 rfl, distinct⟩
      · exact List.forall_mem_cons.mpr ⟨unmarked, fun other member => (apart other member).1⟩

/-- A table without repetitions has different entries in different places. -/
theorem get_injective
    {table : Vector UInt8 256}
    (distinct : table.toList.Nodup) :
    Function.Injective table.get := by
  intro left right same
  have leftWithin : left.val < table.toList.length := by
    simp
  have rightWithin : right.val < table.toList.length := by
    simp
  have sameEntries : table.toList[left.val] = table.toList[right.val] := by
    simpa [Vector.get] using same
  exact Fin.ext (distinct.getElem_inj_iff.mp sameEntries)

theorem substitutions_areFresh :
    areFresh 0 substitutions.toList = true := by
  decide +kernel

theorem substitute_injective :
    Function.Injective substitute := by
  intro left right same
  have places := get_injective (nodup_of_areFresh substitutions_areFresh).1 same
  exact UInt8.toNat_inj.mp (congrArg Fin.val places)

theorem substituteAll_injective :
    Function.Injective substituteAll := by
  intro left right same
  apply Vector.ext
  intro place within
  apply substitute_injective
  have here := congrArg (fun block : Block => block[place]) same
  simpa [substituteAll] using here

theorem rotateRows_injective :
    Function.Injective rotateRows := by
  intro left right same
  have back (block : Block) (column row : Nat) :
      cell (rotateRows block) (column + 3 * row) row = cell block column row := by
    rw [rotateRows, cell_ofCells]
    exact cell_congr block (by omega) (by omega)
  apply eq_of_cells
  intro column row
  rw [← back left, same, back]

/-! ## Mixing -/

theorem xor_left_comm
    (first second third : UInt8) :
    first ^^^ (second ^^^ third) = second ^^^ (first ^^^ third) := by
  rw [← UInt8.xor_assoc, UInt8.xor_comm first, UInt8.xor_assoc]

theorem xor_cancel_left
    (first second : UInt8) :
    first ^^^ (first ^^^ second) = second := by
  rw [← UInt8.xor_assoc, UInt8.xor_self, UInt8.zero_xor]

/-- Doubling moves the bits up and adds the field polynomial for the bit that leaves. -/
theorem double_eq
    (octet : UInt8) :
    double octet = octet <<< 1 ^^^ (octet >>> 7) * 0x1B := by
  revert octet
  exact octet_forall (by decide +kernel)

theorem topBit_cases
    (octet : UInt8) :
    octet >>> 7 = 0 ∨ octet >>> 7 = 1 := by
  revert octet
  exact octet_forall (by decide +kernel)

theorem topBit_xor
    (left right : UInt8) :
    (left >>> 7 ^^^ right >>> 7) * (0x1B : UInt8) =
      (left >>> 7) * (0x1B : UInt8) ^^^ (right >>> 7) * (0x1B : UInt8) := by
  rcases topBit_cases left with leftBit | leftBit <;>
    rcases topBit_cases right with rightBit | rightBit <;>
    rw [leftBit, rightBit] <;>
    rfl

theorem double_xor
    (left right : UInt8) :
    double (left ^^^ right) = double left ^^^ double right := by
  rw [double_eq, double_eq, double_eq, UInt8.shiftLeft_xor, UInt8.shiftRight_xor, topBit_xor]
  simp only [UInt8.xor_assoc, xor_left_comm]

/-- A mixed cell, from the cells of its column that start with it. -/
def mixed (own next across last : UInt8) : UInt8 :=
  double own ^^^ (double next ^^^ next) ^^^ across ^^^ last

/-- A cell that is mixed twice, from itself and the one across. -/
def mixedTwice (own across : UInt8) : UInt8 :=
  double (double own) ^^^ own ^^^ double (double across)

theorem mixed_mixed
    (own next across last : UInt8) :
    mixed (mixed own next across last) (mixed next across last own)
        (mixed across last own next) (mixed last own next across) =
      mixedTwice own across := by
  simp only [mixed, mixedTwice, double_xor, UInt8.xor_assoc, UInt8.xor_comm, xor_left_comm,
    xor_cancel_left]

theorem mixedTwice_mixedTwice
    (own across : UInt8) :
    mixedTwice (mixedTwice own across) (mixedTwice across own) = own := by
  simp only [mixedTwice, double_xor, UInt8.xor_assoc, UInt8.xor_comm, xor_left_comm,
    xor_cancel_left, UInt8.xor_self, UInt8.xor_zero]

theorem cell_mixColumns
    (block : Block)
    (column row : Nat) :
    cell (mixColumns block) column row =
      mixed (cell block column row) (cell block column (row + 1))
        (cell block column (row + 2)) (cell block column (row + 3)) := by
  have shifted (step : Nat) :
      cell block (column % 4) (row % 4 + step) = cell block column (row + step) :=
    cell_congr block (by omega) (by omega)
  rw [mixColumns, cell_ofCells]
  simp only [shifted]
  rfl

theorem cell_mixColumns_mixColumns
    (block : Block)
    (column row : Nat) :
    cell (mixColumns (mixColumns block)) column row =
      mixedTwice (cell block column row) (cell block column (row + 2)) := by
  have around (step : Nat) :
      cell block column (row + (4 + step)) = cell block column (row + step) :=
    cell_congr block rfl (by omega)
  have fourth := around 0
  have fifth := around 1
  have sixth := around 2
  simp only [Nat.reduceAdd, Nat.add_zero] at fourth fifth sixth
  simp only [cell_mixColumns, Nat.add_assoc, Nat.reduceAdd, fourth, fifth, sixth, mixed_mixed]

/-- Columns that are mixed four times are what they were. -/
theorem mixColumns_four_times
    (block : Block) :
    mixColumns (mixColumns (mixColumns (mixColumns block))) = block := by
  apply eq_of_cells
  intro column row
  have around : cell block column (row + 2 + 2) = cell block column row :=
    cell_congr block rfl (by omega)
  rw [cell_mixColumns_mixColumns, cell_mixColumns_mixColumns, cell_mixColumns_mixColumns, around,
    mixedTwice_mixedTwice]

theorem mixColumns_injective :
    Function.Injective mixColumns := by
  intro left right same
  rw [← mixColumns_four_times left, same, mixColumns_four_times]

/-! ## Rounds -/

theorem add_injective
    (roundKey : Block) :
    Function.Injective (add · roundKey) := by
  intro left right same
  apply Vector.ext
  intro place within
  have here := congrArg (fun block : Block => block[place]) same
  simpa [add] using here

theorem innerRound_injective :
    Function.Injective innerRound :=
  mixColumns_injective.comp (rotateRows_injective.comp substituteAll_injective)

theorem rounds_injective :
    ∀ (count : Nat) (constant : UInt8) (key : Block),
      Function.Injective (rounds count constant key)
  | 0, _, _ =>
      Function.injective_id
  | 1, _, _ =>
      (add_injective _).comp (rotateRows_injective.comp substituteAll_injective)
  | count + 2, constant, key =>
      (rounds_injective (count + 1) (double constant) (nextRoundKey constant key)).comp
        ((add_injective _).comp innerRound_injective)

/-- Under one key no two blocks are enciphered alike. -/
theorem encipher_injective
    (key : Block) :
    Function.Injective (encipher key) :=
  (rounds_injective 10 0x01 key).comp (add_injective key)

end Aes

end LteNas
