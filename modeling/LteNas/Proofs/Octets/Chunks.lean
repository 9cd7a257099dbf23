import LteNas.Octets.HexDump
import Mathlib.Data.List.Basic

namespace LteNas.HexDump

/-!
# Pieces of a list

A list is cut into pieces of one size, the last of which may be shorter.  The
pieces are windows on the list, one behind the other.
-/

variable {α : Type} {size count : Nat} {items : List α}

/-- The number of pieces: the quotient, rounded up. -/
def pieceCount (size length : Nat) : Nat :=
  (length + (size - 1)) / size

/-- The piece of a number. -/
def piece (size : Nat) (items : List α) (number : Nat) : List α :=
  (items.drop (number * size)).take size

theorem pieceCount_zero
    (positive : 0 < size) :
    pieceCount size 0 = 0 := by
  rw [pieceCount, Nat.zero_add]
  exact Nat.div_eq_of_lt (Nat.sub_one_lt_of_lt positive)

/-- A first piece is cut off as long as anything is left. -/
theorem pieceCount_of_pos
    {length : Nat}
    (positive : 0 < size)
    (some_left : 0 < length) :
    pieceCount size length = pieceCount size (length - size) + 1 := by
  by_cases many : size ≤ length
  · have sum_eq : length + (size - 1) = length - size + (size - 1) + size := by
      omega
    rw [pieceCount, sum_eq, Nat.add_div_right _ positive, pieceCount]
  · have none_left : length - size = 0 := by
      omega
    rw [none_left, pieceCount_zero positive, pieceCount]
    exact Nat.div_eq_of_lt_le (by omega) (by omega)

theorem drop_length_le
    {item : α}
    (positive : 0 < size)
    (enough : (item :: items).length ≤ count + 1) :
    ((item :: items).drop size).length ≤ count := by
  rw [List.length_cons] at enough
  rw [List.length_drop, List.length_cons]
  omega

/-- The pieces that are cut are the windows on the list. -/
theorem cut_eq_map
    (positive : 0 < size)
    (enough : items.length ≤ count) :
    chunks.cut size count items =
      (List.range (pieceCount size items.length)).map (piece size items) := by
  induction count generalizing items with
  | zero =>
      rw [List.length_eq_zero_iff.mp (Nat.le_zero.mp enough), List.length_nil,
        pieceCount_zero positive]
      rfl
  | succ count inductionHypothesis =>
      cases items with
      | nil =>
          rw [List.length_nil, pieceCount_zero positive]
          rfl
      | cons item items =>
          have fewer := drop_length_le positive enough
          have some_left : 0 < (item :: items).length := by
            simp
          have behind_eq (number : Nat) :
              piece size ((item :: items).drop size) number =
                piece size (item :: items) (number + 1) := by
            rw [piece, piece, List.drop_drop, Nat.succ_mul, Nat.add_comm]
          have first_eq : (item :: items).take size = piece size (item :: items) 0 := by
            simp [piece]
          rw [chunks.cut, inductionHypothesis fewer, List.length_drop,
            pieceCount_of_pos positive some_left, List.range_succ_eq_map, List.map_cons,
            List.map_map, first_eq]
          exact congrArg _ (List.map_congr_left fun number _ => behind_eq number)

theorem chunks_eq_map
    (positive : 0 < size) :
    chunks size items = (List.range (pieceCount size items.length)).map (piece size items) :=
  cut_eq_map positive (Nat.le_refl _)

/-- Joined, the pieces are the list. -/
theorem cut_flatten
    (positive : 0 < size)
    (enough : items.length ≤ count) :
    (chunks.cut size count items).flatten = items := by
  induction count generalizing items with
  | zero =>
      rw [List.length_eq_zero_iff.mp (Nat.le_zero.mp enough)]
      rfl
  | succ count inductionHypothesis =>
      cases items with
      | nil =>
          rfl
      | cons item items =>
          have fewer := drop_length_le positive enough
          rw [chunks.cut, List.flatten_cons, inductionHypothesis fewer, List.take_append_drop]

theorem chunks_flatten
    (positive : 0 < size) :
    (chunks size items).flatten = items :=
  cut_flatten positive (Nat.le_refl _)

end LteNas.HexDump
