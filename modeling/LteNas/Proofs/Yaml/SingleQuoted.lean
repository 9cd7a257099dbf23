import LteNas.Proofs.Yaml.Plain

namespace LteNas.Yaml

/-!
# Scalars in single quotes

A quote is written twice, and a line that follows a break is put in.  Reading
takes back both, so that a text without line feeds is read as it was.
-/

section Neighbours

variable {test : Char → Char → Bool} {character : Char} {text : List Char}

theorem hasNeighbours_cons_eq_false_iff :
    hasNeighbours test (character :: text) = false ↔
      (∀ second ∈ text.head?, test character second = false) ∧
        hasNeighbours test text = false := by
  cases text <;> simp [hasNeighbours]

end Neighbours

/-! ## Gaps -/

/--
The gap behind the characters read so far, in front of text: a space stands in
front of no break, and a break in front of no space.
-/
inductive Awaits : (followsBreak : Bool) → Gap → List Char → Prop where
  | nothing (text : List Char) :
      Awaits false .nothing text
  | blanks {text : List Char} (reversed : List Char)
      (noBreak : ∀ character ∈ text.head?, isBreak character = false) :
      Awaits false (.blanks reversed) text
  | breaks {text : List Char} {first : Char} (reversed : List Char)
      (notFeed : first ≠ '\n')
      (noSpace : text.head? ≠ some ' ') :
      Awaits true (.breaks (some first) reversed) text

section Gaps

variable {followsBreak : Bool} {gap : Gap} {character : Char} {text : List Char}

/-- A break stands for itself behind a gap that is written in front of it. -/
theorem Awaits.addBreak
    (awaits : Awaits followsBreak gap (character :: text))
    (lineBreak : isBreak character = true)
    (notFeed : character ≠ '\n')
    (noSpace : text.head? ≠ some ' ') :
    Awaits true (gap.addBreak character) text ∧
      (gap.addBreak character).reversedText = character :: gap.reversedText := by
  cases awaits with
  | nothing =>
      refine ⟨.breaks [] notFeed noSpace, ?_⟩
      simp [Gap.addBreak, Gap.reversedText, notFeed]
  | blanks reversed noBreak =>
      have notBreak := noBreak character rfl
      rw [lineBreak] at notBreak
      cases notBreak
  | breaks reversed firstNotFeed =>
      refine ⟨.breaks _ firstNotFeed noSpace, ?_⟩
      simp [Gap.addBreak, Gap.reversedText, firstNotFeed]

/-- A space stands for itself behind a gap that is written in front of it. -/
theorem Awaits.addSpace
    (awaits : Awaits followsBreak gap (' ' :: text))
    (noBreak : ∀ character ∈ text.head?, isBreak character = false) :
    followsBreak = false ∧ Awaits false (gap.addBlank ' ') text ∧
      (gap.addBlank ' ').reversedText = ' ' :: gap.reversedText := by
  cases awaits with
  | nothing =>
      exact ⟨rfl, .blanks [' '] noBreak, rfl⟩
  | blanks reversed =>
      exact ⟨rfl, .blanks (' ' :: reversed) noBreak, rfl⟩
  | breaks reversed notFeed noSpace =>
      exact absurd rfl noSpace

end Gaps

/-! ## Steps of the reader -/

section Steps

variable {spansLines : Bool} {reversed text : List Char} {gap : Gap} {column : Nat}
  {character : Char}

theorem readSingle_close
    (notQuote : text.head? ≠ some '\'') :
    readSingle spansLines reversed gap column ('\'' :: text) =
      some (quotedEnd spansLines (gap.reversedText ++ reversed) (column + 1) text) := by
  rcases text with _ | ⟨character, text⟩
  · rfl
  · have other : character ≠ '\'' := by
      rintro rfl
      exact notQuote rfl
    simp [readSingle, other]

theorem readSingle_quote :
    readSingle spansLines reversed gap column ('\'' :: '\'' :: text) =
      readSingle spansLines ('\'' :: (gap.reversedText ++ reversed)) .nothing (column + 2)
        text := by
  rw [readSingle]

theorem readSingle_space :
    readSingle spansLines reversed gap column (' ' :: text) =
      readSingle spansLines reversed (gap.addBlank ' ') (column + 1) text := by
  have notBreak : isBreak ' ' = false := rfl
  have spacing : isSpacing ' ' = true := rfl
  simp [readSingle, notBreak, spacing]

theorem readSingle_character
    (notQuote : character ≠ '\'')
    (notBreak : isBreak character = false)
    (notSpacing : isSpacing character = false) :
    readSingle spansLines reversed gap column (character :: text) =
      readSingle spansLines (character :: (gap.reversedText ++ reversed)) .nothing (column + 1)
        text := by
  simp [readSingle, notQuote, notBreak, notSpacing]

theorem readSingle_break
    (lineBreak : isBreak character = true)
    (noMarker : startsDocumentMarker text = false) :
    readSingle spansLines reversed gap column (character :: text) =
      readSingle true reversed (gap.addBreak character) 0 text := by
  have notQuote : character ≠ '\'' := by
    rintro rfl
    cases lineBreak
  simp [readSingle, notQuote, lineBreak, noMarker]

/-- Columns that a line is put in do not count behind a break. -/
theorem Awaits.readSingle_indentation
    {followsBreak : Bool}
    (awaits : Awaits followsBreak gap text)
    (behind : List Char) :
    ∃ further,
      readSingle spansLines reversed gap column
          ((if followsBreak then indentation else []) ++ behind) =
        readSingle spansLines reversed gap further behind := by
  cases awaits with
  | nothing =>
      exact ⟨column, rfl⟩
  | blanks =>
      exact ⟨column, rfl⟩
  | breaks =>
      refine ⟨column + 2, ?_⟩
      rw [if_pos rfl, indentation, List.cons_append, List.cons_append, readSingle_space,
        readSingle_space]
      rfl

end Steps

/-! ## What is written is read -/

/-- A document marker starts with a hyphen or a point. -/
theorem startsDocumentMarker_cons
    {first : Char}
    (noHyphen : first ≠ '-')
    (noPoint : first ≠ '.')
    (text : List Char) :
    startsDocumentMarker (first :: text) = false := by
  rcases text with _ | ⟨second, _ | ⟨third, text⟩⟩ <;>
    simp [startsDocumentMarker, startsMarker, noHyphen, noPoint]

/-- No line that is put in starts a document marker. -/
theorem startsDocumentMarker_singleContent
    (text behind : List Char) :
    startsDocumentMarker (singleContent true text ++ '\'' :: behind) = false := by
  rcases text with _ | ⟨character, text⟩
  · exact startsDocumentMarker_cons (by decide) (by decide) _
  · by_cases lineBreak : isBreak character = true
    · rw [singleContent, if_pos lineBreak]
      apply startsDocumentMarker_cons <;>
      · rintro rfl
        cases lineBreak
    · rw [singleContent, if_neg lineBreak]
      exact startsDocumentMarker_cons (by decide) (by decide) _

/-- What is no break is written behind the columns that its line is put in. -/
theorem singleContent_character
    {followsBreak : Bool}
    {character : Char}
    (notBreak : isBreak character = false)
    (text : List Char) :
    singleContent followsBreak (character :: text) =
      (if followsBreak then indentation else []) ++
        ((if character = '\'' then ['\'', '\''] else [character]) ++ singleContent false text) := by
  simp [singleContent, notBreak]

/-- Behind what was read, text without line feeds is read as it was written. -/
theorem readSingle_singleContent
    {spansLines followsBreak : Bool}
    {reversed text behind : List Char}
    {gap : Gap}
    {column : Nat}
    (awaits : Awaits followsBreak gap text)
    (printable : ∀ character ∈ text, isPrintable character = true)
    (noFeed : '\n' ∉ text)
    (noSpaceBreak : hasSpaceBreak text = false)
    (noBreakSpace : hasBreakSpace text = false)
    (notQuote : behind.head? ≠ some '\'') :
    ∃ spans stop,
      readSingle spansLines reversed gap column
          (singleContent followsBreak text ++ '\'' :: behind) =
        some (quotedEnd spans (text.reverse ++ (gap.reversedText ++ reversed)) stop behind) := by
  -- `Awaits` is what each step keeps: the gap so far stands for the characters written for it
  induction text generalizing spansLines followsBreak reversed gap column with
  | nil =>
      obtain ⟨further, indented⟩ := awaits.readSingle_indentation ('\'' :: behind)
      exact ⟨_, _, indented.trans (readSingle_close notQuote)⟩
  | cons character text inductionHypothesis =>
      obtain ⟨printableHere, printableBehind⟩ := List.forall_mem_cons.mp printable
      obtain ⟨notFeed, feedBehind⟩ := List.ne_and_not_mem_of_not_mem_cons noFeed
      obtain ⟨noBreakNext, spaceBreakBehind⟩ := hasNeighbours_cons_eq_false_iff.mp noSpaceBreak
      obtain ⟨noSpaceNext, breakSpaceBehind⟩ := hasNeighbours_cons_eq_false_iff.mp noBreakSpace
      have readBehind {followsBreak spansLines reversed gap column}
          (awaits : Awaits followsBreak gap text) :=
        @inductionHypothesis spansLines followsBreak reversed gap column awaits
          printableBehind feedBehind spaceBreakBehind breakSpaceBehind
      by_cases lineBreak : isBreak character = true
      · have noSpace : text.head? ≠ some ' ' := by
          intro space
          simpa [lineBreak] using noSpaceNext ' ' space
        obtain ⟨awaitsBehind, pending_eq⟩ := awaits.addBreak lineBreak notFeed.symm noSpace
        obtain ⟨spans, stop, read⟩ := readBehind awaitsBehind
        rw [singleContent, if_pos lineBreak, List.cons_append,
          readSingle_break lineBreak (startsDocumentMarker_singleContent text behind), read,
          pending_eq]
        exact ⟨spans, stop, by simp⟩
      · have notBreak : isBreak character = false := by
          simpa using lineBreak
        obtain ⟨further, indented⟩ := awaits.readSingle_indentation _
        rw [singleContent_character notBreak, List.append_assoc, List.append_assoc, indented]
        by_cases quote : character = '\''
        · subst quote
          obtain ⟨spans, stop, read⟩ := readBehind (.nothing text)
          rw [if_pos rfl, List.cons_append, List.cons_append, List.nil_append, readSingle_quote,
            read]
          exact ⟨spans, stop, by simp [Gap.reversedText]⟩
        · rw [if_neg quote, List.cons_append, List.nil_append]
          by_cases space : character = ' '
          · subst space
            have noBreak : ∀ next ∈ text.head?, isBreak next = false := by
              simpa using noBreakNext
            obtain ⟨rfl, awaitsBehind, pending_eq⟩ := awaits.addSpace noBreak
            obtain ⟨spans, stop, read⟩ := readBehind awaitsBehind
            rw [readSingle_space, read, pending_eq]
            exact ⟨spans, stop, by simp⟩
          · have notSpacing : isSpacing character = false :=
              isSpacing_eq_false printableHere space
            obtain ⟨spans, stop, read⟩ := readBehind (.nothing text)
            rw [readSingle_character quote notBreak notSpacing, read]
            exact ⟨spans, stop, by simp [Gap.reversedText]⟩

/-- A text that single quotes can hold. -/
structure StandsQuoted (text : List Char) : Prop where
  printable : ∀ character ∈ text, isPrintable character = true
  noSpaceBreak : hasSpaceBreak text = false
  noBreakSpace : hasBreakSpace text = false

theorem standsQuoted_of_allowsSingle
    {text : List Char}
    (allowed : allowsSingle text = true) :
    StandsQuoted text := by
  simp only [allowsSingle, needsEscapes, Bool.not_eq_true', Bool.or_eq_false_iff] at allowed
  obtain ⟨noBreakSpace, noSpaceBreak, printable⟩ := allowed
  exact ⟨by simpa using printable, noSpaceBreak, noBreakSpace⟩

section Quoted

variable {text : List Char}

/-- A text in single quotes is read back. -/
theorem StandsQuoted.readScalar_eq
    {indent column : Nat}
    {startsLine : Bool}
    {behind : List Char}
    (quoted : StandsQuoted text)
    (noFeed : '\n' ∉ text)
    (notQuote : behind.head? ≠ some '\'') :
    ∃ spans stop,
      readScalar indent ⟨startsLine, column, singleQuoted text ++ behind⟩ =
        some (quotedEnd spans text.reverse stop behind) := by
  obtain ⟨spans, stop, read⟩ := @readSingle_singleContent false false [] text behind .nothing
    (column + 1) (.nothing text) quoted.printable noFeed quoted.noSpaceBreak quoted.noBreakSpace
    notQuote
  refine ⟨spans, stop, ?_⟩
  simpa [readScalar, singleQuoted, Gap.reversedText] using read

theorem singleContent_printable
    {followsBreak : Bool}
    (printable : ∀ character ∈ text, isPrintable character = true) :
    ∀ character ∈ singleContent followsBreak text, isPrintable character = true := by
  have indented (followsBreak : Bool) :
      ∀ character ∈ (if followsBreak then indentation else []), isPrintable character = true := by
    cases followsBreak <;> simp [indentation, isPrintable]
  induction text generalizing followsBreak with
  | nil =>
      exact indented followsBreak
  | cons character text inductionHypothesis =>
      obtain ⟨printableHere, printableBehind⟩ := List.forall_mem_cons.mp printable
      by_cases lineBreak : isBreak character = true
      · rw [singleContent, if_pos lineBreak]
        exact List.forall_mem_cons.mpr ⟨printableHere, inductionHypothesis printableBehind⟩
      · rw [singleContent_character (by simpa using lineBreak)]
        simp only [List.forall_mem_append]
        refine ⟨indented followsBreak, ?_, inductionHypothesis printableBehind⟩
        split <;> simp_all

theorem StandsQuoted.singleQuoted_printable
    (quoted : StandsQuoted text) :
    ∀ character ∈ singleQuoted text, isPrintable character = true := by
  have quote : isPrintable '\'' = true := rfl
  simp only [singleQuoted, List.cons_append, List.forall_mem_cons, List.forall_mem_append]
  exact ⟨quote, singleContent_printable quoted.printable, quote, by simp⟩

end Quoted

end LteNas.Yaml
