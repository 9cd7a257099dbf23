import LteNas.Proofs.Octets.Chunks
import LteNas.Proofs.Octets.Hexadecimal
import LteNas.Proofs.Text.Lines
import LteNas.Proofs.Yaml.Numerals
import Mathlib.Data.List.Forall2

namespace LteNas.HexDump

/-!
# Dumps read back

A dump is read by its shape alone: the offset goes up to the first space, the
groups of digits up to the first bar, and the text column from there to the last
character of the line.  So read, a dump gives back the octets.
-/

/-! ## The columns of a line -/

/-- The digits in front of the first space. -/
def offsetDigits (line : String) : List Char :=
  line.toList.takeWhile (· != ' ')

/-- The column in which the text column starts: that of the first bar. -/
def textStart (line : String) : Nat :=
  (line.toList.takeWhile (· != '|')).length

/-- What stands between spaces. -/
def words (text : List Char) : List (List Char) :=
  (text.splitOn ' ').filter (· != [])

/-- The groups of digits between the offset and the first bar. -/
def groups (line : String) : List (List Char) :=
  words ((line.toList.takeWhile (· != '|')).dropWhile (· != ' '))

/-- The text between the first bar and the last character. -/
def shownText (line : String) : List Char :=
  (line.toList.drop (textStart line + 1)).dropLast

/-- Printable ASCII is shown as itself, any other octet as a point. -/
def Shows (octet : UInt8) (character : Char) : Prop :=
  character.toNat =
    if 0x20 ≤ octet.toNat ∧ octet.toNat ≤ 0x7E then octet.toNat else '.'.toNat

/-- The line of a dump that shows a row of octets at an offset. -/
structure IsLine (offset : Nat) (row : List UInt8) (line : String) : Prop where
  offset_width : 8 ≤ (offsetDigits line).length
  offset_value : Yaml.digitsValue? 16 (offsetDigits line) = some offset
  groups_eq : groups line = row.map Hex.digits
  bars : line.toList.drop (textStart line) = '|' :: shownText line ++ ['|']
  shows : List.Forall₂ Shows row (shownText line)
  aligned : offset < 2 ^ 32 → textStart line = 60

/-! ## Words -/

theorem words_append_space
    (front behind : List Char) :
    words (front ++ ' ' :: behind) = words front ++ words behind := by
  rw [words, words, words, List.splitOn_append_cons_self, List.filter_append]

theorem words_nil : words [] = [] := by
  rfl

theorem words_of_unspaced
    {word : List Char}
    (nonempty : word ≠ [])
    (unspaced : ' ' ∉ word) :
    words word = [word] := by
  rw [words, List.splitOn_eq_singleton unspaced]
  simp [nonempty]

/-- Texts that each end with a space have their own words. -/
theorem words_flatMap
    {α : Type}
    (text : α → List Char)
    (items : List α) :
    words (items.flatMap fun item => text item ++ [' ']) =
      items.flatMap fun item => words (text item) := by
  induction items with
  | nil =>
      rfl
  | cons item items inductionHypothesis =>
      rw [List.flatMap_cons, List.append_assoc, List.singleton_append, words_append_space,
        inductionHypothesis, List.flatMap_cons]

/-! ## The hexadecimal column -/

theorem mem_alphabet_of_mem_digits
    {octet : UInt8}
    {character : Char}
    (member : character ∈ Hex.digits octet) :
    character ∈ Hex.alphabet := by
  apply (Hex.spells_encode [octet]).mem_alphabet
  simpa [Hex.encode] using member

/-- A cell without the space at its end. -/
def cellText : Option UInt8 → List Char
  | some octet => Hex.digits octet
  | none => [' ', ' ']

/-- What stands at a place of a row, without the space at its end. -/
def placeText (row : List UInt8) (place : Nat) : List Char :=
  (if place = 8 then [' '] else []) ++ cellText row[place]?

theorem hexColumn_eq
    (row : List UInt8) :
    hexColumn row = (List.range rowLength).flatMap fun place => placeText row place ++ [' '] := by
  have cell_eq (octet? : Option UInt8) : cell octet? = cellText octet? ++ [' '] := by
    cases octet? <;> rfl
  simp only [hexColumn, placeText, cell_eq, List.append_assoc]

theorem words_cellText
    (octet? : Option UInt8) :
    words (cellText octet?) = octet?.toList.map Hex.digits := by
  cases octet? with
  | none =>
      rfl
  | some octet =>
      exact words_of_unspaced (by simp [cellText, Hex.digits])
        fun member => absurd (mem_alphabet_of_mem_digits member) (by decide)

theorem words_placeText
    (row : List UInt8)
    (place : Nat) :
    words (placeText row place) = row[place]?.toList.map Hex.digits := by
  rw [placeText]
  split
  · rw [List.singleton_append, ← List.nil_append (' ' :: _), words_append_space, words_nil,
      List.nil_append, words_cellText]
  · rw [List.nil_append, words_cellText]

/-- The items at the first places of a list. -/
theorem flatMap_getElem?
    {α : Type}
    (items : List α)
    (count : Nat) :
    ((List.range count).flatMap fun place => items[place]?.toList) = items.take count := by
  induction count with
  | zero =>
      rfl
  | succ count inductionHypothesis =>
      rw [List.range_succ, List.flatMap_append, inductionHypothesis, List.take_add_one]
      simp

/-- The words of the column are the digits of the octets of the row. -/
theorem words_hexColumn
    {row : List UInt8}
    (short : row.length ≤ rowLength) :
    words (hexColumn row) = row.map Hex.digits := by
  rw [hexColumn_eq, words_flatMap]
  simp only [words_placeText]
  rw [← List.map_flatMap, flatMap_getElem?, List.take_of_length_le short]

/-- The column is of one width, however long the row. -/
theorem hexColumn_length
    (row : List UInt8) :
    (hexColumn row).length = 49 := by
  have cell_length (octet? : Option UInt8) : (cell octet?).length = 3 := by
    cases octet? <;> rfl
  simp only [hexColumn, List.length_flatMap, List.length_append, cell_length]
  decide

/-- The column is made of spaces and digits. -/
theorem mem_hexColumn
    {row : List UInt8}
    {character : Char}
    (member : character ∈ hexColumn row) :
    character = ' ' ∨ character ∈ Hex.alphabet := by
  rw [hexColumn_eq] at member
  obtain ⟨place, -, member⟩ := List.mem_flatMap.mp member
  rcases List.mem_append.mp member with inText | atEnd
  · rw [placeText] at inText
    rcases List.mem_append.mp inText with inGap | inCell
    · split at inGap
      · exact .inl (List.mem_singleton.mp inGap)
      · cases inGap
    · cases octet?_eq : row[place]? with
      | none =>
          simp only [octet?_eq, cellText, List.mem_cons, List.not_mem_nil, or_false,
            or_self] at inCell
          exact .inl inCell
      | some octet =>
          rw [octet?_eq] at inCell
          exact .inr (mem_alphabet_of_mem_digits inCell)
  · exact .inl (List.mem_singleton.mp atEnd)

/-! ## The offset -/

theorem digitChar_isPlain :
    ∀ digit : Fin 16, Nat.digitChar digit ≠ ' ' ∧ Nat.digitChar digit ≠ '|' := by
  decide

/-- The digits of an offset are no spaces and no bars. -/
theorem offset_isPlain
    {offset : Nat}
    {character : Char}
    (member : character ∈ (Text.hexadecimal 8 offset).toList) :
    character ≠ ' ' ∧ character ≠ '|' := by
  obtain ⟨digit, rfl⟩ := Text.exists_of_mem_hexadecimal member
  exact digitChar_isPlain digit

/-! ## The text column -/

theorem visible_shows :
    ∀ octet : UInt8, Shows octet (visible octet) := by
  unfold Shows
  exact octet_forall (by decide +kernel)

/-! ## Lines -/

section Lines

variable {offset : Nat} {row : List UInt8}

/-- What stands in front of the first bar of a line. -/
theorem takeWhile_rowText
    (offset : Nat)
    (row : List UInt8) :
    (rowText offset row).toList =
        (rowText offset row).toList.takeWhile (· != '|') ++ '|' :: (row.map visible ++ ['|']) ∧
      (rowText offset row).toList.takeWhile (· != '|') =
        (Text.hexadecimal 8 offset).toList ++ ' ' :: (' ' :: hexColumn row ++ [' ']) := by
  have row_eq :
      (rowText offset row).toList =
        ((Text.hexadecimal 8 offset).toList ++ ' ' :: (' ' :: hexColumn row ++ [' '])) ++
          '|' :: (row.map visible ++ ['|']) := by
    simp [rowText]
  have barless :
      ∀ character ∈ (Text.hexadecimal 8 offset).toList ++ ' ' :: (' ' :: hexColumn row ++ [' ']),
        (character != '|') = true := by
    intro character member
    rw [bne_iff_ne]
    rintro rfl
    simp only [List.mem_append, List.mem_cons, List.not_mem_nil, or_false] at member
    rcases member with inOffset | space | (space | inColumn) | space
    · exact (offset_isPlain inOffset).2 rfl
    · cases space
    · cases space
    · rcases mem_hexColumn inColumn with space | digit
      · cases space
      · exact absurd digit (by decide)
    · cases space
  have front_eq :
      (rowText offset row).toList.takeWhile (· != '|') =
        (Text.hexadecimal 8 offset).toList ++ ' ' :: (' ' :: hexColumn row ++ [' ']) := by
    rw [row_eq, List.takeWhile_append_of_pos barless, List.takeWhile_cons_of_neg (by simp),
      List.append_nil]
  exact ⟨by rw [front_eq]; exact row_eq, front_eq⟩

/-- The line of a row shows it, and nothing else. -/
theorem rowText_isLine
    (offset : Nat)
    (short : row.length ≤ rowLength) :
    IsLine offset row (rowText offset row) := by
  obtain ⟨line_eq, front_eq⟩ := takeWhile_rowText offset row
  have unspaced : ∀ character ∈ (Text.hexadecimal 8 offset).toList, (character != ' ') = true := by
    intro character member
    exact bne_iff_ne.mpr (offset_isPlain member).1
  have digits_eq : offsetDigits (rowText offset row) = (Text.hexadecimal 8 offset).toList := by
    rw [offsetDigits, line_eq, front_eq, List.append_assoc,
      List.takeWhile_append_of_pos unspaced, List.cons_append,
      List.takeWhile_cons_of_neg (by simp), List.append_nil]
  have behind_eq :
      (rowText offset row).toList.drop (textStart (rowText offset row)) =
        '|' :: (row.map visible ++ ['|']) := by
    conv_lhs => rw [line_eq]
    exact List.drop_left
  have shown_eq : shownText (rowText offset row) = row.map visible := by
    rw [shownText, ← List.drop_drop, behind_eq]
    simp
  constructor
  · rw [digits_eq]
    exact Text.le_hexadecimal_length 8 offset
  · rw [digits_eq]
    exact Yaml.digitsValue?_hexadecimal 8 offset
  · rw [groups, front_eq, List.dropWhile_append_of_pos unspaced,
      List.dropWhile_cons_of_neg (by simp), List.cons_append, ← List.nil_append (' ' :: _),
      words_append_space, ← List.nil_append (' ' :: _), words_append_space, words_append_space,
      words_hexColumn short]
    simp [words_nil]
  · rw [behind_eq, shown_eq]
    rfl
  · rw [shown_eq, List.forall₂_map_right_iff]
    exact List.forall₂_same.mpr fun octet _ => visible_shows octet
  · intro small
    have width_eq : (Text.hexadecimal 8 offset).toList.length = 8 :=
      Text.hexadecimal_length (by decide) small
    rw [textStart, front_eq]
    simp only [List.length_append, List.length_cons, List.length_nil, hexColumn_length, width_eq]

theorem visible_ne_lineFeed :
    ∀ octet : UInt8, visible octet ≠ '\n' :=
  octet_forall (by decide +kernel)

theorem rowText_isUnbroken
    (offset : Nat)
    (row : List UInt8) :
    Text.IsUnbroken (rowText offset row) := by
  have column : '\n' ∉ hexColumn row := by
    intro member
    rcases mem_hexColumn member with space | digit
    · cases space
    · exact absurd digit (by decide)
  have shown : '\n' ∉ row.map visible := by
    intro member
    obtain ⟨octet, -, lineFeed⟩ := List.mem_map.mp member
    exact visible_ne_lineFeed octet lineFeed
  have joints : Text.IsUnbroken "  " ∧ Text.IsUnbroken " |" ∧ Text.IsUnbroken "|" := by
    unfold Text.IsUnbroken
    decide
  simp only [rowText, Text.isUnbroken_append, Text.isUnbroken_hexadecimal,
    Text.isUnbroken_ofList, joints]
  exact ⟨⟨⟨⟨⟨trivial, trivial⟩, column⟩, trivial⟩, shown⟩, trivial⟩

end Lines

/-! ## Dumps -/

section Dumps

variable {octets : List UInt8}

/-- The rows are the pieces of the octets, at the multiples of their length. -/
theorem rows_eq
    (octets : List UInt8) :
    rows octets =
      (List.range (pieceCount rowLength octets.length)).map fun number =>
        rowText (number * rowLength) (piece rowLength octets number) := by
  rw [rows, chunks_eq_map (by decide)]
  apply List.ext_getElem
  · simp
  · intro number near far
    simp

/-- The lines of a dump are its rows. -/
theorem cut_text
    (nonempty : octets ≠ []) :
    Text.cut (text octets) = rows octets := by
  have notEmpty : octets.isEmpty = false := by
    simpa using nonempty
  rw [text, notEmpty]
  apply Text.cut_intercalate
  · rw [rows_eq]
    intro line member
    obtain ⟨number, -, rfl⟩ := List.mem_map.mp member
    exact rowText_isUnbroken _ _
  · have some_left : 0 < octets.length :=
      List.length_pos_iff.mpr nonempty
    rw [rows_eq, pieceCount_of_pos (by decide) some_left]
    simp

/-- Line by line the groups are the digits of the octets. -/
theorem groups_rows
    (octets : List UInt8) :
    (rows octets).flatMap groups = octets.map Hex.digits := by
  have row_groups (number : Nat) :
      groups (rowText (number * rowLength) (piece rowLength octets number)) =
        (piece rowLength octets number).map Hex.digits :=
    (rowText_isLine _ (List.length_take_le _ _)).groups_eq
  have pieces_eq :
      (List.range (pieceCount rowLength octets.length)).flatMap (piece rowLength octets) =
        octets := by
    rw [List.flatMap_def, ← chunks_eq_map (by decide), chunks_flatten (by decide)]
  rw [rows_eq, List.flatMap_map]
  simp only [row_groups]
  rw [← List.map_flatMap, pieces_eq]

/--
A dump has a line for every sixteen octets begun, which shows the row at its
offset.  The groups of digits of all lines in order are those of the octets, and
are read as them.
-/
theorem text_isFaithful
    (nonempty : octets ≠ []) :
    let lines := Text.cut (text octets)
    lines.length = (octets.length + 15) / 16 ∧
      (∀ number line, lines[number]? = some line →
        IsLine (16 * number) ((octets.drop (16 * number)).take 16) line) ∧
      (∀ group ∈ lines.flatMap groups, group.length = 2) ∧
      Hex.decode (utf8Octets (lines.flatMap groups).flatten) = .ok octets := by
  intro lines
  have lines_eq : lines = rows octets :=
    cut_text nonempty
  rw [lines_eq]
  refine ⟨?_, ?_, ?_, ?_⟩
  · rw [rows_eq, List.length_map, List.length_range]
    rfl
  · intro number line found
    rw [rows_eq, List.getElem?_map, Option.map_eq_some_iff] at found
    obtain ⟨position, found, rfl⟩ := found
    obtain ⟨inside, position_eq⟩ := List.getElem?_eq_some_iff.mp found
    rw [List.getElem_range] at position_eq
    rw [← position_eq, Nat.mul_comm 16]
    exact rowText_isLine _ (List.length_take_le _ _)
  · intro group member
    rw [groups_rows] at member
    obtain ⟨octet, -, rfl⟩ := List.mem_map.mp member
    rfl
  · rw [groups_rows, ← List.flatMap_def, Hex.decode_eq_ok_iff]
    have spells := Hex.spells_encode octets
    rwa [Hex.encode, String.toList_ofList] at spells

/--
Eighteen octets take two lines, the second of which shows a point and a bar from
the offset sixteen on.
-/
theorem text_isFaithful_eighteen :
    let octets : List UInt8 := List.replicate 16 0x41 ++ [0x00, 0x7C]
    let line :=
      "00000010  00 7c                                             |.||"
    octets ≠ [] ∧
      (Text.cut (text octets))[1]? = some line ∧
      IsLine 16 [0x00, 0x7C] line ∧
      groups line = [['0', '0'], ['7', 'c']] ∧
      shownText line = ['.', '|'] ∧
      Hex.decode (utf8Octets ((Text.cut (text octets)).flatMap groups).flatten) = .ok octets := by
  intro octets line
  have nonempty : octets ≠ [] := by
    decide
  have found : (Text.cut (text octets))[1]? = some line := by
    decide +kernel
  obtain ⟨-, shows, -, read⟩ := text_isFaithful nonempty
  exact ⟨nonempty, found, shows 1 line found, by decide +kernel, by decide +kernel, read⟩

end Dumps

end LteNas.HexDump
