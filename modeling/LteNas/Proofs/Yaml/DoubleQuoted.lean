import LteNas.Proofs.Yaml.Numerals
import LteNas.Proofs.Yaml.Plain

namespace LteNas.Yaml

/-!
# Scalars in double quotes

Every character is written in a way that reads back as it: by a letter of its
own, as it is, or by the digits of its code.
-/

/-! ## Digits of codes -/

theorem digitValue?_toUpper_ascii :
    ∀ code : Fin 128,
      digitValue? (Char.ofNat code).toUpper = digitValue? (Char.ofNat code) := by
  decide +kernel

/-- The case of a digit does not count. -/
theorem digitValue?_toUpper
    (character : Char) :
    digitValue? character.toUpper = digitValue? character := by
  by_cases ascii : character.toNat < 128
  · have upper_eq := digitValue?_toUpper_ascii ⟨character.toNat, ascii⟩
    simpa using upper_eq
  · have same : character.toUpper = character := by
      apply dif_neg
      rintro ⟨-, most⟩
      have code_le : character.toNat ≤ 122 := most
      omega
    rw [same]

theorem addDigit?_toUpper
    (base number : Nat)
    (digit : Char) :
    addDigit? base number digit.toUpper = addDigit? base number digit := by
  rw [addDigit?, addDigit?, digitValue?_toUpper]

/-- The upper-case digits of a number that the width has room for. -/
theorem upperHexadecimal_eq
    {width number : Nat}
    (wide : 0 < width)
    (fits : number < 16 ^ width) :
    (upperHexadecimal width number).length = width ∧
      (upperHexadecimal width number).foldlM (addDigit? 16) 0 = some number := by
  have length_eq := Text.hexadecimal_length wide fits
  have nonempty : (Text.hexadecimal width number).toList ≠ [] := by
    rw [← List.length_pos_iff, length_eq]
    exact wide
  constructor
  · rw [upperHexadecimal, List.length_map, length_eq]
  · rw [upperHexadecimal, List.foldlM_map]
    simp only [addDigit?_toUpper]
    rw [← digitsValue?_eq nonempty, digitsValue?_hexadecimal]

section Steps

variable {spansLines : Bool} {reversed digits text : List Char} {gap : Gap} {column : Nat}
  {character : Char}

/-- The digits of a code are read as its character. -/
theorem readDouble_digits
    {missing code last : Nat}
    (length_eq : digits.length = missing)
    (some_missing : 0 < missing)
    (read : digits.foldlM (addDigit? 16) code = some last)
    (spelled : ofCode? last = some character) :
    readDouble spansLines reversed gap (.digits missing code) column (digits ++ text) =
      readDouble spansLines (character :: reversed) .nothing .text (column + missing) text := by
  -- the induction is on the digits to come, behind the code of those that were read
  induction digits generalizing missing code column with
  | nil =>
      cases length_eq
      cases some_missing
  | cons digit digits inductionHypothesis =>
      rw [List.foldlM_cons] at read
      obtain ⟨next, next_eq, read⟩ := Option.bind_eq_some_iff.mp read
      obtain ⟨value, value_eq, within⟩ := Option.bind_eq_some_iff.mp next_eq
      split at within
      · cases within
        subst length_eq
        rw [List.cons_append, readDouble]
        simp only [value_eq]
        by_cases sole : digits = []
        · subst sole
          cases read
          simp [spelled]
        · have some_left : 0 < digits.length := List.length_pos_iff.mpr sole
          have more : ¬ digits.length + 1 ≤ 1 := Nat.not_le_of_lt (Nat.succ_lt_succ some_left)
          rw [List.length_cons, if_neg more, Nat.add_sub_cancel,
            inductionHypothesis rfl some_left read, Nat.add_assoc, Nat.add_comm 1]
      · cases within

/-! ## Steps of the reader -/

theorem readDouble_close :
    readDouble spansLines reversed gap .text column ('"' :: text) =
      some (quotedEnd spansLines (gap.reversedText ++ reversed) (column + 1) text) := by
  simp [readDouble]

theorem readDouble_backslash :
    readDouble spansLines reversed gap .text column ('\\' :: text) =
      readDouble spansLines (gap.reversedText ++ reversed) .nothing .escape (column + 1) text := by
  simp [readDouble]

theorem readDouble_space :
    readDouble spansLines reversed gap .text column (' ' :: text) =
      readDouble spansLines reversed (gap.addBlank ' ') .text (column + 1) text := by
  have notBreak : isBreak ' ' = false := rfl
  have spacing : isSpacing ' ' = true := rfl
  simp [readDouble, notBreak, spacing]

theorem readDouble_character
    (notQuote : character ≠ '"')
    (notBackslash : character ≠ '\\')
    (notBreak : isBreak character = false)
    (notSpacing : isSpacing character = false) :
    readDouble spansLines reversed gap .text column (character :: text) =
      readDouble spansLines (character :: (gap.reversedText ++ reversed)) .nothing .text
        (column + 1) text := by
  simp [readDouble, notQuote, notBackslash, notBreak, notSpacing]

/-- A letter that escapes a character is read as it. -/
theorem readDouble_letter
    {letter : Char}
    (notBreak : isBreak letter = false)
    (escaped : escaped? letter = some character) :
    readDouble spansLines reversed gap .escape column (letter :: text) =
      readDouble spansLines (character :: reversed) .nothing .text (column + 1) text := by
  simp [readDouble, notBreak, escaped]

/-- Behind the letter of a numeric escape so many digits are to come. -/
theorem readDouble_numeric
    {letter : Char}
    {missing : Nat}
    (notBreak : isBreak letter = false)
    (notEscaped : escaped? letter = none)
    (numeric : escapeDigits? letter = some missing) :
    readDouble spansLines reversed gap .escape column (letter :: text) =
      readDouble spansLines reversed gap (.digits missing 0) (column + 1) text := by
  simp [readDouble, notBreak, notEscaped, numeric]

end Steps

/-! ## What is written is read -/

/-- A character is written by a letter of its own, as it is, or by the digits of its code. -/
theorem doubleCharacter_cases
    (character : Char) :
    (∃ letter, escapeLetter? character = some letter ∧
        doubleCharacter character = ['\\', letter]) ∨
      (escapeLetter? character = none ∧ isPrintable character = true ∧
        doubleCharacter character = [character]) ∨
      doubleCharacter character = '\\' :: numericEscape character := by
  cases written : escapeLetter? character with
  | some letter =>
      exact .inl ⟨letter, rfl, by simp [doubleCharacter, written]⟩
  | none =>
      by_cases printable : isPrintable character = true
      · exact .inr (.inl ⟨rfl, printable, by simp [doubleCharacter, written, printable]⟩)
      · exact .inr (.inr (by simp [doubleCharacter, written, printable]))

/-- The letter of an escape is read as the character that it is written for. -/
theorem escaped?_of_escapeLetter?
    {character letter : Char}
    (written : escapeLetter? character = some letter) :
    isBreak letter = false ∧ escaped? letter = some character ∧ isPrintable letter = true := by
  revert written
  fun_cases escapeLetter? character <;> rintro ⟨⟩ <;> decide

/-- What has no letter of its own is no quote, no backslash and no break. -/
theorem unescaped_isInert
    {character : Char}
    (unescaped : escapeLetter? character = none) :
    character ≠ '"' ∧ character ≠ '\\' ∧ isBreak character = false := by
  have inert {other : Char} (letter : escapeLetter? other ≠ none) : character ≠ other := by
    rintro rfl
    exact letter unescaped
  refine ⟨inert (by decide), inert (by decide), ?_⟩
  have notFeed : character ≠ '\n' := inert (by decide)
  have notLine : character ≠ '\u2028' := inert (by decide)
  have notParagraph : character ≠ '\u2029' := inert (by decide)
  simp [isBreak, notFeed, notLine, notParagraph]

/-- A numeric escape has a letter for its number of digits, and room for the code. -/
theorem numericEscape_eq
    (character : Char) :
    ∃ letter missing,
      numericEscape character = letter :: upperHexadecimal missing character.toNat ∧
        isBreak letter = false ∧ escaped? letter = none ∧ escapeDigits? letter = some missing ∧
        isPrintable letter = true ∧ 0 < missing ∧ character.toNat < 16 ^ missing := by
  have code_lt : character.toNat < 0x110000 := by
    rcases character.valid with low | ⟨-, high⟩
    · exact Nat.lt_trans low (by decide)
    · exact high
  fun_cases numericEscape character
  · exact ⟨'x', 2, rfl, rfl, rfl, rfl, rfl, by decide, by omega⟩
  · exact ⟨'u', 4, rfl, rfl, rfl, rfl, rfl, by decide, by omega⟩
  · exact ⟨'U', 8, rfl, rfl, rfl, rfl, rfl, by decide, by omega⟩

theorem ofCode?_toNat
    (character : Char) :
    ofCode? character.toNat = some character := by
  have valid : character.toNat.isValidChar := character.valid
  rw [ofCode?, if_pos valid, Char.ofNat_toNat]

section Reading

variable {spansLines : Bool} {reversed text : List Char} {gap : Gap} {column : Nat}

/-- A written character is read as it, behind what is pending. -/
theorem readDouble_doubleCharacter
    (oneLine : gap.spansLines = false)
    (character : Char)
    (behind : List Char) :
    ∃ pending after further,
      readDouble spansLines reversed gap .text column (doubleCharacter character ++ behind) =
          readDouble spansLines pending after .text further behind ∧
        after.spansLines = false ∧
        after.reversedText ++ pending = character :: (gap.reversedText ++ reversed) := by
  rcases doubleCharacter_cases character with
    ⟨letter, letter_eq, written_eq⟩ | ⟨unescaped, printable, written_eq⟩ | written_eq
  · obtain ⟨notBreak, escaped, -⟩ := escaped?_of_escapeLetter? letter_eq
    refine ⟨character :: (gap.reversedText ++ reversed), .nothing, column + 2, ?_, rfl, rfl⟩
    rw [written_eq, List.cons_append, List.cons_append, readDouble_backslash,
      readDouble_letter notBreak escaped, List.nil_append]
  · obtain ⟨notQuote, notBackslash, notBreak⟩ := unescaped_isInert unescaped
    rw [written_eq, List.cons_append, List.nil_append]
    by_cases space : character = ' '
    · subst space
      obtain ⟨pending_eq, oneLineBehind⟩ := reversedText_addBlank oneLine ' '
      exact ⟨_, _, _, readDouble_space, oneLineBehind, by rw [pending_eq]; rfl⟩
    · have notSpacing : isSpacing character = false :=
        isSpacing_eq_false printable space
      exact ⟨_, _, _, readDouble_character notQuote notBackslash notBreak notSpacing, rfl, rfl⟩
  · obtain ⟨letter, missing, escape_eq, notBreak, notEscaped, numeric, -, some_missing, fits⟩ :=
      numericEscape_eq character
    obtain ⟨length_eq, read⟩ := upperHexadecimal_eq some_missing fits
    refine ⟨character :: (gap.reversedText ++ reversed), .nothing, column + 2 + missing, ?_,
      rfl, rfl⟩
    rw [written_eq, escape_eq, List.cons_append, List.cons_append, readDouble_backslash,
      readDouble_numeric notBreak notEscaped numeric]
    exact readDouble_digits length_eq some_missing read (ofCode?_toNat character)

/-- Behind what was read, a text is read as it was written. -/
theorem readDouble_flatMap
    (oneLine : gap.spansLines = false)
    (behind : List Char) :
    ∃ stop,
      readDouble spansLines reversed gap .text column
          (text.flatMap doubleCharacter ++ '"' :: behind) =
        some (quotedEnd spansLines (text.reverse ++ (gap.reversedText ++ reversed)) stop
          behind) := by
  induction text generalizing reversed gap column with
  | nil =>
      exact ⟨column + 1, readDouble_close⟩
  | cons character text inductionHypothesis =>
      obtain ⟨pending, after, further, read, oneLineBehind, pending_eq⟩ :=
        readDouble_doubleCharacter oneLine character (text.flatMap doubleCharacter ++ '"' :: behind)
      obtain ⟨stop, readBehind⟩ := inductionHypothesis oneLineBehind
      refine ⟨stop, ?_⟩
      rw [List.flatMap_cons, List.append_assoc, read, readBehind, pending_eq]
      simp

/-- A text in double quotes is read back. -/
theorem readScalar_doubleQuoted
    {indent : Nat}
    {startsLine : Bool}
    (text behind : List Char) :
    ∃ stop,
      readScalar indent ⟨startsLine, column, doubleQuoted text ++ behind⟩ =
        some (quotedEnd false text.reverse stop behind) := by
  obtain ⟨stop, read⟩ := @readDouble_flatMap false [] text .nothing (column + 1) rfl behind
  refine ⟨stop, ?_⟩
  simpa [readScalar, doubleQuoted, Gap.reversedText] using read

end Reading

/-! ## What is written can be printed -/

theorem digitChar_toUpper_printable :
    ∀ digit : Fin 16, isPrintable (Nat.digitChar digit).toUpper = true := by
  decide

theorem upperHexadecimal_printable
    (width number : Nat) :
    ∀ character ∈ upperHexadecimal width number, isPrintable character = true := by
  intro character member
  obtain ⟨_, digitMember, rfl⟩ := List.mem_map.mp member
  obtain ⟨digit, rfl⟩ := Text.exists_of_mem_hexadecimal digitMember
  exact digitChar_toUpper_printable digit

theorem doubleCharacter_printable
    (character : Char) :
    ∀ written ∈ doubleCharacter character, isPrintable written = true := by
  have backslash : isPrintable '\\' = true := rfl
  rcases doubleCharacter_cases character with
    ⟨letter, letter_eq, written_eq⟩ | ⟨-, printable, written_eq⟩ | written_eq
  · obtain ⟨-, -, printable⟩ := escaped?_of_escapeLetter? letter_eq
    simp [written_eq, backslash, printable]
  · simp [written_eq, printable]
  · obtain ⟨letter, missing, escape_eq, -, -, -, printable, -⟩ := numericEscape_eq character
    rw [written_eq, escape_eq, List.forall_mem_cons, List.forall_mem_cons]
    exact ⟨backslash, printable, upperHexadecimal_printable missing character.toNat⟩

theorem doubleQuoted_printable
    (text : List Char) :
    ∀ character ∈ doubleQuoted text, isPrintable character = true := by
  have quote : isPrintable '"' = true := rfl
  simp only [doubleQuoted, List.cons_append, List.forall_mem_cons, List.forall_mem_append,
    List.mem_flatMap]
  refine ⟨quote, ?_, quote, by simp⟩
  rintro written ⟨character, -, member⟩
  exact doubleCharacter_printable character written member

end LteNas.Yaml
