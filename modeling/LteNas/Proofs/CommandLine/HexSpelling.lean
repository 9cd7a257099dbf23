import LteNas.Proofs.CommandLine.HexLine
import LteNas.Proofs.Octets.Chunks
import LteNas.Proofs.Octets.Hexadecimal
import LteNas.Proofs.Text.Separators

namespace LteNas

/-!
# Spellings of messages

A line holds octets exactly if it spells them: it is their digits in either
letter case, behind a marker at most, with separators among them.  Octets that
are written in groups are such digits.
-/

namespace HexLine

/-- What may stand in front of the digits of a line. -/
def markers : List String :=
  ["", "0x", "0X"]

/-- Behind a marker, and without its separators, a trimmed line is the digits of octets. -/
def IsSpelling (line : List Char) (octets : List UInt8) : Prop :=
  ∃ marker ∈ markers, ∃ body,
    line = marker.toList ++ body ∧
      Hex.Spells (body.filter fun character => !isSeparator character) octets

/-! ## Trimmed lines -/

section Trimmed

variable {line body : List Char} {octets : List UInt8}

/-- A line that holds octets is the digits that are left of it. -/
theorem readTrimmed_eq_ok_iff :
    readTrimmed line = .ok octets ↔
      Hex.Spells ((dropMarker line).filter fun character => !isSeparator character) octets := by
  rw [readTrimmed, ← Hex.decode_eq_ok_iff]
  change _ ↔ Hex.decode (digitOctets line) = .ok octets
  by_cases odd : (digitOctets line).length % 2 ≠ 0
  · simp [odd, Hex.decode]
  · simp only [odd, if_false]
    cases Hex.decode (digitOctets line) <;> simp [Except.mapError]

theorem exists_marker
    (line : List Char) :
    ∃ marker ∈ markers, line = marker.toList ++ dropMarker line := by
  fun_cases dropMarker line
  · exact ⟨"0x", by decide, rfl⟩
  · exact ⟨"0X", by decide, rfl⟩
  · exact ⟨"", by decide, rfl⟩

theorem alphabet_isPlain :
    ∀ character ∈ Hex.alphabet,
      character ≠ 'x' ∧ character ≠ 'X' ∧ character ≠ '#' ∧ isSeparator character = false := by
  simp [Hex.alphabet, isSeparator, Text.isBlank]

/-- A character of a body is a separator or a digit. -/
theorem separator_or_digit
    {character : Char}
    (spells : Hex.Spells (body.filter fun character => !isSeparator character) octets)
    (member : character ∈ body) :
    isSeparator character = true ∨ character ∈ Hex.alphabet := by
  by_cases separates : isSeparator character = true
  · exact .inl separates
  · refine .inr (spells.mem_alphabet (List.mem_filter.mpr ⟨member, ?_⟩))
    simpa using separates

/-- Digits do not start with a marker. -/
theorem dropMarker_of_spells
    (spells : Hex.Spells (body.filter fun character => !isSeparator character) octets) :
    dropMarker body = body := by
  have notMark {mark : Char} (separates : isSeparator mark = false)
      (notDigit : mark ∉ Hex.alphabet) : mark ∉ body := by
    intro member
    rcases separator_or_digit spells member with separator | digit
    · rw [separates] at separator
      cases separator
    · exact notDigit digit
  have lower : 'x' ∉ body := notMark (by decide) (by decide)
  have upper : 'X' ∉ body := notMark (by decide) (by decide)
  fun_cases dropMarker body
  · exact (lower (by simp)).elim
  · exact (upper (by simp)).elim
  · rfl

/-- A line is a spelling exactly if its digits behind a marker are. -/
theorem isSpelling_iff :
    IsSpelling line octets ↔
      Hex.Spells ((dropMarker line).filter fun character => !isSeparator character) octets := by
  constructor
  · rintro ⟨marker, member, body, rfl, spells⟩
    have behind_eq : dropMarker (marker.toList ++ body) = body := by
      simp only [markers, List.mem_cons, List.not_mem_nil, or_false] at member
      rcases member with rfl | rfl | rfl
      · exact dropMarker_of_spells spells
      · rfl
      · rfl
    rwa [behind_eq]
  · intro spells
    obtain ⟨marker, member, line_eq⟩ := exists_marker line
    exact ⟨marker, member, dropMarker line, line_eq, spells⟩

end Trimmed

/-! ## Whole lines -/

theorem read_eq_some_iff
    {line : String}
    {octets : List UInt8} :
    read line = .ok (some octets) ↔
      isSilent (Text.trim line.toList) = false ∧ IsSpelling (Text.trim line.toList) octets := by
  rw [isSpelling_iff, ← readTrimmed_eq_ok_iff, read]
  by_cases silent : isSilent (Text.trim line.toList) = true
  · simp [silent]
  · simp only [silent]
    cases readTrimmed (Text.trim line.toList) <;> simp [Except.map]

theorem isSilent_eq_false_iff
    {line : List Char} :
    isSilent line = false ↔ line ≠ [] ∧ line.head? ≠ some '#' := by
  simp [isSilent]

end HexLine

/-! ## Octets in groups -/

namespace HexDump

/-- If nothing is selected from what joins pieces, what is selected stems from the pieces. -/
theorem filter_intercalate
    {selects : Char → Bool}
    {joint : List Char}
    (leavesOut : joint.filter selects = [])
    (pieces : List (List Char)) :
    (joint.intercalate pieces).filter selects = pieces.flatten.filter selects := by
  induction pieces with
  | nil =>
      rfl
  | cons piece pieces inductionHypothesis =>
      cases pieces with
      | nil =>
          simp
      | cons next pieces =>
          rw [List.intercalate_cons_cons, List.filter_append, List.filter_append, leavesOut,
            inductionHypothesis, List.append_nil, ← List.filter_append]
          rfl

theorem encode_flatten
    (pieces : List (List UInt8)) :
    (pieces.map fun octets => (Hex.encode octets).toList).flatten =
      (Hex.encode pieces.flatten).toList := by
  induction pieces with
  | nil =>
      rfl
  | cons octets pieces inductionHypothesis =>
      simp only [Hex.encode, String.toList_ofList] at inductionHypothesis ⊢
      simp [inductionHypothesis]

/-- Without the spaces between groups, their digits are left. -/
theorem compact_filter
    (octets : List UInt8)
    (group : Nat) :
    ((compact octets group).toList.filter fun character => !HexLine.isSeparator character) =
      (Hex.encode octets).toList := by
  have digits_kept (octets : List UInt8) :
      ((Hex.encode octets).toList.filter fun character => !HexLine.isSeparator character) =
        (Hex.encode octets).toList := by
    rw [List.filter_eq_self]
    intro character member
    have digit := (Hex.spells_encode octets).mem_alphabet member
    rw [(HexLine.alphabet_isPlain character digit).2.2.2]
    rfl
  rw [compact]
  split
  · exact digits_kept octets
  · rename_i grouped
    have space_toList : " ".toList = [' '] := by
      rfl
    rw [String.toList_intercalate, space_toList, filter_intercalate (by decide), List.map_map]
    change ((chunks group octets).map fun octets => (Hex.encode octets).toList).flatten.filter _ = _
    rw [encode_flatten, chunks_flatten (Nat.pos_of_ne_zero grouped), digits_kept]

end HexDump

namespace HexLine

/-- Octets that are written in groups are a spelling, behind a marker and between blanks. -/
theorem compact_isSpelling
    {front back : List Char}
    {marker : String}
    (member : marker ∈ markers)
    (frontBlank : ∀ character ∈ front, Text.isBlank character = true)
    (backBlank : ∀ character ∈ back, Text.isBlank character = true)
    (octets : List UInt8)
    (group : Nat) :
    IsSpelling
      (Text.trim (front ++ (marker.toList ++ ((HexDump.compact octets group).toList ++ back))))
      octets := by
  have blanksLeftOut : ∀ character, Text.isBlank character = true →
      (!isSeparator character) = false := by
    intro character blank
    simp [isSeparator, blank]
  have digits_eq :
      (((HexDump.compact octets group).toList ++ back).filter
        fun character => !isSeparator character) = (Hex.encode octets).toList := by
    rw [List.filter_append, HexDump.compact_filter,
      Text.filter_blanks blanksLeftOut backBlank, List.append_nil]
  have spells := Hex.spells_encode octets
  simp only [markers, List.mem_cons, List.not_mem_nil, or_false] at member
  rcases member with rfl | rfl | rfl
  · refine ⟨"", by decide, Text.trim _, rfl, ?_⟩
    rwa [Text.filter_trim blanksLeftOut, List.filter_append,
      Text.filter_blanks blanksLeftOut frontBlank, String.toList_empty, List.nil_append,
      List.nil_append, digits_eq]
  · refine ⟨"0x", by decide, Text.trimEnd ((HexDump.compact octets group).toList ++ back),
      Text.trim_append_pair frontBlank (by decide) (by decide), ?_⟩
    rwa [Text.filter_trimEnd blanksLeftOut, digits_eq]
  · refine ⟨"0X", by decide, Text.trimEnd ((HexDump.compact octets group).toList ++ back),
      Text.trim_append_pair frontBlank (by decide) (by decide), ?_⟩
    rwa [Text.filter_trimEnd blanksLeftOut, digits_eq]

/-- A spelling of octets is not silent, as it starts with a digit or a separator. -/
theorem IsSpelling.not_silent
    {line : List Char}
    {octets : List UInt8}
    (spelling : IsSpelling line octets)
    (nonempty : octets ≠ []) :
    isSilent line = false := by
  obtain ⟨marker, member, body, rfl, spells⟩ := spelling
  simp only [markers, List.mem_cons, List.not_mem_nil, or_false] at member
  rcases member with rfl | rfl | rfl
  · rw [isSilent_eq_false_iff, String.toList_empty, List.nil_append]
    constructor
    · rintro rfl
      exact nonempty spells.eq_nil
    · intro head_eq
      rcases separator_or_digit spells (List.mem_of_head? head_eq) with separator | digit
      · exact absurd separator (by decide)
      · exact absurd digit (by decide)
  · rfl
  · rfl

end HexLine

/--
A line is read as octets exactly if it is neither blank nor a comment and spells
them, and as nothing exactly if it is blank or a comment.  Octets that are written
in groups are read back, behind a marker or none and between any blanks.
-/
theorem HexLine.read_isExact :
    (∀ line octets,
      let shown := Text.trim line.toList
      read line = .ok (some octets) ↔
        shown ≠ [] ∧ shown.head? ≠ some '#' ∧ IsSpelling shown octets) ∧
    (∀ line, read line = .ok none ↔ IsBlank line ∨ IsComment line) ∧
    ∀ octets group, octets ≠ [] →
      ∀ front back, IsBlank front → IsBlank back →
        ∀ marker ∈ markers,
          read (front ++ marker ++ HexDump.compact octets group ++ back) = .ok (some octets) := by
  refine ⟨fun line octets => ?_, fun line => read_eq_none_iff, ?_⟩
  · rw [read_eq_some_iff, isSilent_eq_false_iff, and_assoc]
  · intro octets group nonempty front back frontBlank backBlank marker member
    have spelling := compact_isSpelling member frontBlank backBlank octets group
    rw [read_eq_some_iff, String.toList_append, String.toList_append, String.toList_append,
      List.append_assoc, List.append_assoc]
    exact ⟨spelling.not_silent nonempty, spelling⟩

/-- Three octets in groups of two are read back from behind a marker, between wide blanks. -/
theorem HexLine.read_isExact_grouped :
    let octets : List UInt8 := [0x07, 0x45, 0xAF]
    octets ≠ [] ∧ IsBlank "\t\u2003" ∧ IsBlank "\u3000" ∧ "0X" ∈ markers ∧
      HexDump.compact octets 2 = "0745 af" ∧
      read ("\t\u2003" ++ "0X" ++ HexDump.compact octets 2 ++ "\u3000") = .ok (some octets) := by
  intro octets
  have nonempty : octets ≠ [] := by
    decide
  have frontBlank : IsBlank "\t\u2003" := by
    simp [IsBlank, Text.isBlank]
  have backBlank : IsBlank "\u3000" := by
    simp [IsBlank, Text.isBlank]
  have marker : "0X" ∈ markers := by
    decide
  obtain ⟨-, -, written⟩ := read_isExact
  exact ⟨nonempty, frontBlank, backBlank, marker, rfl,
    written octets 2 nonempty _ _ frontBlank backBlank _ marker⟩

end LteNas
