import LteNas.Yaml.Printer
import Mathlib.Data.Bool.AllAny

namespace LteNas.Yaml

/-!
# Plain scalars

A text that may be written plain is read back whole, up to the line feed or the
colon that ends it.
-/

/-! ## Tokens -/

/-- No break, blank or comment stands in front, and no mark of the encoding. -/
def BeginsToken (text : List Char) : Prop :=
  ∀ character ∈ text.head?,
    isBreak character = false ∧ isSpacing character = false ∧ character ≠ '#' ∧
      character ≠ orderMark

section Tokens

variable {text : List Char} {inBraces startsLine : Bool} {column : Nat}

/-- Where a token begins it is the next token. -/
theorem BeginsToken.nextToken_eq
    (begins : BeginsToken text) :
    nextToken inBraces false startsLine column text = ⟨startsLine, column, text⟩ := by
  cases text with
  | nil =>
      rfl
  | cons character text =>
      obtain ⟨notBreak, notSpacing, notComment, notMark⟩ := begins character rfl
      have notBlank : character ≠ ' ' ∧ character ≠ '\t' := by
        simpa [isSpacing] using notSpacing
      simp [nextToken, notBreak, notComment, notMark, notBlank]

/-- Behind a line feed a token stands in the first column. -/
theorem BeginsToken.nextToken_lineFeed
    (begins : BeginsToken text) :
    nextToken inBraces false startsLine column ('\n' :: text) = ⟨true, 0, text⟩ := by
  have isFeed : isBreak '\n' = true := rfl
  rw [nextToken, if_pos isFeed]
  exact begins.nextToken_eq

/-- Behind a space on a line that has begun a token stands one column on. -/
theorem BeginsToken.nextToken_space
    (begins : BeginsToken text) :
    nextToken inBraces false startsLine (column + 1) (' ' :: text) =
      ⟨startsLine, column + 2, text⟩ := by
  have notBreak : isBreak ' ' = false := rfl
  simp [nextToken, notBreak, begins.nextToken_eq]

end Tokens

/-! ## What may be written plain -/

/-- The text can stand without quotes. -/
structure StandsPlain (text : List Char) : Prop where
  starts : text.head? ≠ some ' '
  ends : text.getLast? ≠ some ' '
  unbroken : ∀ character ∈ text, isBreak character = false
  unmarked : hasStartIndicator text = false
  unindicated : hasInnerIndicator text = false
  printable : ∀ character ∈ text, isPrintable character = true

theorem standsPlain_of_allowsPlain
    {text : List Char}
    (allowed : allowsPlain text = true) :
    StandsPlain text := by
  simp only [allowsPlain, needsEscapes, Bool.not_eq_true', Bool.or_eq_false_iff] at allowed
  obtain ⟨⟨⟨⟨⟨starts, ends⟩, unbroken⟩, unmarked⟩, unindicated⟩, -, printable⟩ := allowed
  refine ⟨?_, ?_, ?_, unmarked, unindicated, ?_⟩
  · rintro first
    simp [first] at starts
  · rintro last
    simp [last] at ends
  · simpa using unbroken
  · simpa using printable

/-- The only blank that is written as it is is the space. -/
theorem isSpacing_eq_false
    {character : Char}
    (printable : isPrintable character = true)
    (notSpace : character ≠ ' ') :
    isSpacing character = false := by
  have notTab : character ≠ '\t' := by
    rintro rfl
    exact absurd printable (by decide)
  simp [isSpacing, notSpace, notTab]

/-! ### Words -/

/-- Small letters, digits and the low line. -/
def wordCharacters : List Char :=
  "abcdefghijklmnopqrstuvwxyz0123456789_".toList

/-- There is nothing but letters, digits and low lines in the text. -/
def isWord (text : List Char) : Bool :=
  text.all fun character => wordCharacters.contains character

/-- Word characters are written as they are and indicate nothing. -/
theorem wordCharacter_isPlain :
    ∀ character ∈ wordCharacters,
      isPrintable character = true ∧ isBreak character = false ∧
        character ∉ startIndicators ∧ character ∉ [' ', '?', ':', '-', '.'] :=
  List.all_iff_forall_prop.mp rfl

/-- Without colons and hash signs there is no indicator inside. -/
theorem hasInnerIndicator_eq_false
    {text : List Char}
    (noColon : ':' ∉ text)
    (noHash : '#' ∉ text) :
    hasInnerIndicator text = false := by
  fun_induction hasInnerIndicator text with
  | case1 first second text inductionHypothesis =>
      have colon : second ≠ ':' := by
        rintro rfl
        exact noColon (by simp)
      have hash : second ≠ '#' := by
        rintro rfl
        exact noHash (by simp)
      have behind := inductionHypothesis (fun member => noColon (List.mem_cons_of_mem _ member))
        (fun member => noHash (List.mem_cons_of_mem _ member))
      simp [colon, hash, behind]
  | case2 =>
      rfl

/-- A word can stand plain. -/
theorem standsPlain_of_isWord
    {text : List Char}
    (word : isWord text = true) :
    StandsPlain text := by
  have plain : ∀ character ∈ text, _ := fun character member =>
    wordCharacter_isPlain character (by simpa using List.all_eq_true.mp word character member)
  have noSpace : ' ' ∉ text := fun member => (plain _ member).2.2.2 (by simp)
  have noColon : ':' ∉ text := fun member => (plain _ member).2.2.2 (by simp)
  have noHash : '#' ∉ text := fun member => (plain _ member).2.2.1 (by simp [startIndicators])
  refine ⟨?_, ?_, fun character member => (plain character member).2.1, ?_,
    hasInnerIndicator_eq_false noColon noHash, fun character member => (plain character member).1⟩
  · exact fun first => noSpace (List.mem_of_head? first)
  · exact fun last => noSpace (List.mem_of_getLast? last)
  · cases text with
    | nil =>
        rfl
    | cons first text =>
        obtain ⟨-, -, noIndicator, noSign⟩ := plain first List.mem_cons_self
        simp only [List.mem_cons, List.not_mem_nil, or_false, not_or] at noSign
        simp [hasStartIndicator, hasStartIndicator.startsLikeMarker, noIndicator, noSign]

/-! ## Where a plain scalar starts -/

/-- Reader and writer know the same indicators. -/
theorem indicators_perm :
    indicators.Perm startIndicators := by
  decide

section StandsPlain

variable {text : List Char}

/-- A token that goes on does so whatever stands behind. -/
theorem endsToken_append
    (goesOn : endsToken text = false)
    (behind : List Char) :
    endsToken (text ++ behind) = false := by
  cases text with
  | nil =>
      cases goesOn
  | cons character text =>
      exact goesOn

/-- A text that can stand plain begins a token. -/
theorem StandsPlain.beginsToken
    (plain : StandsPlain text)
    (nonempty : text ≠ [])
    (behind : List Char) :
    BeginsToken (text ++ behind) := by
  rcases text with _ | ⟨first, text⟩
  · exact absurd rfl nonempty
  · have member : first ∈ first :: text := List.mem_cons_self
    have printable := plain.printable first member
    have notSpace : first ≠ ' ' := by
      rintro rfl
      exact plain.starts rfl
    rintro _ ⟨rfl⟩
    refine ⟨plain.unbroken first member, isSpacing_eq_false printable notSpace, ?_, ?_⟩
    · rintro rfl
      exact absurd plain.unmarked (by simp [hasStartIndicator, startIndicators])
    · rintro rfl
      exact absurd printable (by decide)

/-- In front of a text that can stand plain no indicator stands by itself. -/
theorem StandsPlain.goesOn
    {first : Char}
    (plain : StandsPlain (first :: text))
    (signed : first = '-' ∨ first = '?' ∨ first = ':') :
    endsToken text = false := by
  have unmarked := plain.unmarked
  simp only [hasStartIndicator, Bool.or_eq_false_iff] at unmarked
  rcases signed with rfl | rfl | rfl <;> simpa using unmarked.1.2

/-- A plain scalar may start with a text that can stand plain. -/
theorem StandsPlain.startsPlain_eq
    {first : Char}
    (plain : StandsPlain (first :: text))
    (behind : List Char) :
    startsPlain (first :: (text ++ behind)) = true := by
  by_cases signed : first = '-' ∨ first = '?' ∨ first = ':'
  · simp [startsPlain, signed, or_assoc, endsToken_append (plain.goesOn signed)]
  · obtain ⟨notBreak, notSpacing, -⟩ := plain.beginsToken (by simp) behind first rfl
    have noIndicator : first ∉ indicators := by
      have unmarked := plain.unmarked
      rw [indicators_perm.mem_iff]
      simp only [hasStartIndicator, Bool.or_eq_false_iff] at unmarked
      simpa using unmarked.1.1
    simp [startsPlain, signed, or_assoc, noIndicator, notBreak, notSpacing]

end StandsPlain

/-! ## Reading a text that stands plain -/

section Reading

variable {indent column : Nat} {spansLines : Bool} {reversed text : List Char} {gap : Gap}
  {previous character : Char}

/-- A visible character that ends no scalar is read, and so is the gap in front of it. -/
theorem readPlain_character
    (notBreak : isBreak character = false)
    (notSpacing : isSpacing character = false)
    (oneLine : gap.spansLines = false)
    (goesOn : endsPlain gap (character :: text) = false) :
    readPlain indent spansLines reversed gap column (character :: text) =
      readPlain indent spansLines (character :: (gap.reversedText ++ reversed)) .nothing
        (column + 1) text := by
  simp [readPlain, notBreak, notSpacing, oneLine, goesOn]

/-- A space is kept until the next visible character. -/
theorem readPlain_space :
    readPlain indent spansLines reversed gap column (' ' :: text) =
      readPlain indent spansLines reversed (gap.addBlank ' ') (column + 1) text := by
  have notBreak : isBreak ' ' = false := rfl
  have spacing : isSpacing ' ' = true := rfl
  simp [readPlain, notBreak, spacing]

/-- On one line a blank is added to those in front of it. -/
theorem reversedText_addBlank
    (oneLine : gap.spansLines = false)
    (blank : Char) :
    (gap.addBlank blank).reversedText = blank :: gap.reversedText ∧
      (gap.addBlank blank).spansLines = false := by
  cases gap with
  | nothing =>
      exact ⟨rfl, rfl⟩
  | blanks reversed =>
      exact ⟨rfl, rfl⟩
  | breaks first reversed =>
      cases oneLine

/-- A hash sign behind a gap ends a plain scalar, and so does a colon that ends a token. -/
theorem endsPlain_cons_eq_false_iff :
    endsPlain gap (character :: text) = false ↔
      (character = '#' → gap = .nothing) ∧ (character = ':' → endsToken text = false) := by
  by_cases hash : character = '#'
  · subst hash
    simp [endsPlain]
  · by_cases colon : character = ':'
    · subst colon
      simp [endsPlain]
    · simp [endsPlain, hash, colon]

/-- Without an indicator inside nothing ends a scalar behind its first character. -/
theorem endsPlain_of_unindicated
    (unindicated : hasInnerIndicator (previous :: character :: text) = false)
    (spaced : gap = .nothing ∨ previous = ' ')
    (behind : List Char) :
    endsPlain gap (character :: (text ++ behind)) = false := by
  simp only [hasInnerIndicator, Bool.or_eq_false_iff] at unindicated
  obtain ⟨⟨noColon, noHash⟩, -⟩ := unindicated
  rw [endsPlain_cons_eq_false_iff]
  constructor
  · rintro rfl
    rcases spaced with unspaced | rfl
    · exact unspaced
    · cases noHash
  · rintro rfl
    exact endsToken_append (by simpa using noColon) behind

/-- What a text does not end with ends nothing that is left behind its first character. -/
theorem getLast?_behind
    {last : Char}
    (ends : (character :: text).getLast? ≠ some last) :
    text.getLast? ≠ some last := by
  cases text with
  | nil =>
      simp
  | cons second text =>
      simpa using ends

/-- Behind its first character a text without indicators is read whole. -/
theorem readPlain_append
    (ends : text.getLast? ≠ some ' ')
    (unbroken : ∀ character ∈ text, isBreak character = false)
    (printable : ∀ character ∈ text, isPrintable character = true)
    (unindicated : hasInnerIndicator (previous :: text) = false)
    (oneLine : gap.spansLines = false)
    (spaced : gap = .nothing ∨ previous = ' ' ∧ text ≠ [])
    (behind : List Char) :
    readPlain indent spansLines reversed gap column (text ++ behind) =
      readPlain indent spansLines (text.reverse ++ (gap.reversedText ++ reversed)) .nothing
        (column + text.length) behind := by
  -- the character in front is carried along, as a hash sign may follow anything but a space
  induction text generalizing previous reversed gap column with
  | nil =>
      rcases spaced with rfl | ⟨-, nonempty⟩
      · rfl
      · exact absurd rfl nonempty
  | cons character text inductionHypothesis =>
      obtain ⟨notBreak, unbrokenBehind⟩ := List.forall_mem_cons.mp unbroken
      obtain ⟨printableHere, printableBehind⟩ := List.forall_mem_cons.mp printable
      have unindicatedBehind : hasInnerIndicator (character :: text) = false := by
        simp only [hasInnerIndicator, Bool.or_eq_false_iff] at unindicated
        exact unindicated.2
      have endsBehind := getLast?_behind ends
      by_cases space : character = ' '
      · subst space
        obtain ⟨pending_eq, oneLineBehind⟩ := reversedText_addBlank oneLine ' '
        have nonempty : text ≠ [] := by
          rintro rfl
          exact ends rfl
        rw [List.cons_append, readPlain_space,
          inductionHypothesis endsBehind unbrokenBehind printableBehind unindicatedBehind
            oneLineBehind (.inr ⟨rfl, nonempty⟩), pending_eq]
        simp [Nat.add_comm, Nat.add_left_comm]
      · have notSpacing : isSpacing character = false :=
          isSpacing_eq_false printableHere space
        rw [List.cons_append,
          readPlain_character notBreak notSpacing oneLine
            (endsPlain_of_unindicated unindicated (spaced.imp_right And.left) behind),
          inductionHypothesis endsBehind unbrokenBehind printableBehind unindicatedBehind rfl
            (.inl rfl)]
        simp [Gap.reversedText, Nat.add_comm, Nat.add_left_comm]

/-- A text that can stand plain is read whole. -/
theorem StandsPlain.readScalar_eq
    {startsLine : Bool}
    (plain : StandsPlain text)
    (nonempty : text ≠ [])
    (behind : List Char) :
    readScalar indent ⟨startsLine, column, text ++ behind⟩ =
      readPlain indent false text.reverse .nothing (column + text.length) behind := by
  rcases text with _ | ⟨first, text⟩
  · exact absurd rfl nonempty
  · have starts := plain.startsPlain_eq behind
    obtain ⟨notBreak, notSpacing, -⟩ := plain.beginsToken nonempty behind first rfl
    have goesOn : endsPlain .nothing (first :: (text ++ behind)) = false := by
      rw [endsPlain_cons_eq_false_iff]
      refine ⟨fun _ => rfl, ?_⟩
      rintro rfl
      exact endsToken_append (plain.goesOn (by simp)) behind
    have endsBehind := getLast?_behind plain.ends
    have notSingle : first ≠ '\'' := by
      rintro rfl
      exact absurd starts (by simp [startsPlain, indicators])
    have notDouble : first ≠ '"' := by
      rintro rfl
      exact absurd starts (by simp [startsPlain, indicators])
    have unquoted : readScalar indent ⟨startsLine, column, first :: (text ++ behind)⟩ =
        readPlain indent false [] .nothing column (first :: (text ++ behind)) := by
      simp [readScalar, starts, notSingle, notDouble]
    have unbrokenBehind := (List.forall_mem_cons.mp plain.unbroken).2
    have printableBehind := (List.forall_mem_cons.mp plain.printable).2
    rw [List.cons_append, unquoted, readPlain_character notBreak notSpacing rfl goesOn,
      readPlain_append endsBehind unbrokenBehind printableBehind plain.unindicated rfl (.inl rfl)]
    simp [Gap.reversedText, Nat.add_comm, Nat.add_left_comm]

/-- A token in the first column of the next line ends a plain scalar. -/
theorem readPlain_lineFeed
    (begins : BeginsToken text)
    (indented : 0 < indent) :
    readPlain indent spansLines reversed .nothing column ('\n' :: text) =
      some (plainEnd spansLines reversed (.breaks (some '\n') []) 0 text) := by
  have isFeed : isBreak '\n' = true := rfl
  rw [readPlain, if_pos isFeed]
  cases text with
  | nil =>
      rfl
  | cons character text =>
      obtain ⟨notBreak, notSpacing, -⟩ := begins character rfl
      simp [readPlain, notBreak, notSpacing, Gap.addBreak, Gap.spansLines, indented]

/-- A colon that ends a token ends a plain scalar. -/
theorem readPlain_colon
    (ends : endsToken text = true) :
    readPlain indent spansLines reversed gap column (':' :: text) =
      some (plainEnd spansLines reversed gap column (':' :: text)) := by
  have notBreak : isBreak ':' = false := rfl
  have notSpacing : isSpacing ':' = false := rfl
  simp [readPlain, notBreak, notSpacing, endsPlain, ends]

end Reading

end LteNas.Yaml
