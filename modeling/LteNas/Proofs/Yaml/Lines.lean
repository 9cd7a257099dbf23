import LteNas.Proofs.Yaml.DoubleQuoted
import LteNas.Proofs.Yaml.SingleQuoted
import LteNas.Yaml.Mapping

namespace LteNas.Yaml

/-!
# Lines of entries

What a scalar is written in reads back as the scalar, in whichever style.  Lines
that each hold an entry make up a text that is read as these entries.
-/

/-! ## Written scalars -/

/-- On a line the written characters are read as the scalar, whatever token stands on the next. -/
structure Holds (written : List Char) (scalar : Scalar) : Prop where
  begins : ∀ behind, BeginsToken (written ++ behind)
  printable : ∀ character ∈ written, isPrintable character = true
  ends : ∀ character ∈ written.getLast?, isBreak character = false
  reads : ∀ column behind, BeginsToken behind →
    ∃ spans after,
      readScalar 1 ⟨false, column, written ++ '\n' :: behind⟩ = some ⟨scalar, spans, after⟩ ∧
        after.next = ⟨true, 0, behind⟩

theorem holds_of_standsPlain
    {text : List Char}
    (plain : StandsPlain text)
    (nonempty : text ≠ []) :
    Holds text ⟨String.ofList text, true⟩ where
  begins := plain.beginsToken nonempty
  printable := plain.printable
  ends character member := plain.unbroken character (List.mem_of_getLast? member)
  reads column behind begins := by
    rw [plain.readScalar_eq nonempty, readPlain_lineFeed begins Nat.zero_lt_one, plainEnd,
      List.reverse_reverse]
    exact ⟨_, _, rfl, begins.nextToken_eq⟩

/-- Characters between two quotes hold a text if they are read as it up to the second. -/
theorem holds_of_quotes
    {content text : List Char}
    {quote : Char}
    (mark : quote = '\'' ∨ quote = '"')
    (printable : ∀ character ∈ quote :: content ++ [quote], isPrintable character = true)
    (reads : ∀ column behind, ∃ spans stop,
      readScalar 1 ⟨false, column, quote :: content ++ [quote] ++ '\n' :: behind⟩ =
        some (quotedEnd spans text.reverse stop ('\n' :: behind))) :
    Holds (quote :: content ++ [quote]) ⟨String.ofList text, false⟩ where
  begins behind := by
    rcases mark with rfl | rfl <;>
    · rintro _ ⟨rfl⟩
      decide
  printable := printable
  ends := by
    rw [List.getLast?_concat]
    rcases mark with rfl | rfl <;>
    · rintro _ ⟨rfl⟩
      rfl
  reads column behind begins := by
    obtain ⟨spans, stop, read⟩ := reads column behind
    rw [read, quotedEnd, List.reverse_reverse]
    exact ⟨_, _, rfl, begins.nextToken_lineFeed⟩

theorem holds_singleQuoted
    {text : List Char}
    (quoted : StandsQuoted text)
    (noFeed : '\n' ∉ text) :
    Holds (singleQuoted text) ⟨String.ofList text, false⟩ :=
  holds_of_quotes (.inl rfl) quoted.singleQuoted_printable
    fun _ _ => quoted.readScalar_eq noFeed (by simp)

theorem holds_doubleQuoted
    (text : List Char) :
    Holds (doubleQuoted text) ⟨String.ofList text, false⟩ :=
  holds_of_quotes (.inr rfl) (doubleQuoted_printable text)
    fun _ behind => ⟨false, readScalar_doubleQuoted text ('\n' :: behind)⟩

/-- A text of one line is written so that it is read back, and plain only if it is no typed one. -/
theorem exists_holds_writeText
    {text : String}
    (noFeed : '\n' ∉ text.toList) :
    ∃ isPlain, Holds (writeText text).toList ⟨text, isPlain⟩ ∧
      (isPlain = true → isTyped text = false) := by
  rw [writeText, String.toList_ofList, styleOf]
  simp only [List.contains_iff_mem, noFeed, if_false]
  split
  · rename_i plain
    rw [Bool.and_eq_true, Bool.not_eq_true'] at plain
    obtain ⟨allowed, untyped⟩ := plain
    have nonempty : text.toList ≠ [] := by
      intro empty
      obtain rfl : text = "" := String.toList_eq_nil_iff.mp empty
      simp [isTyped, isNull] at untyped
    have holds := holds_of_standsPlain (standsPlain_of_allowsPlain allowed) nonempty
    rw [String.ofList_toList] at holds
    exact ⟨true, holds, fun _ => untyped⟩
  · split
    · rename_i single
      have holds := holds_singleQuoted (standsQuoted_of_allowsSingle single) noFeed
      rw [String.ofList_toList] at holds
      exact ⟨false, holds, by simp⟩
    · have holds := holds_doubleQuoted text.toList
      rw [String.ofList_toList] at holds
      exact ⟨false, holds, by simp⟩

/-- A text that is written plain only if it is no typed one is never taken for null. -/
theorem optional_eq_some
    {text : String}
    {isPlain : Bool}
    (untyped : isPlain = true → isTyped text = false) :
    Scalar.optional ⟨text, isPlain⟩ = some text := by
  cases isPlain with
  | false =>
      rfl
  | true =>
      have notNull : isNull text = false := by
        simp only [isTyped, Bool.or_eq_false_iff] at untyped
        simp [untyped]
      simp [Scalar.optional, notNull]

/-- A scalar that ends with no break gets one. -/
theorem Holds.endLine_toList
    {written : String}
    {scalar : Scalar}
    (holds : Holds written.toList scalar) :
    (endLine written).toList = written.toList ++ ['\n'] := by
  have noBreak : written.toList.getLast?.any isBreak = false := by
    cases last : written.toList.getLast? with
    | none =>
        rfl
    | some character =>
        exact holds.ends character last
  rw [endLine, noBreak]
  exact String.toList_push _

/-! ## Lines -/

/-- A line with an entry: its name, a colon and a space, and what holds its scalar. -/
inductive IsLine : Entry → List Char → Prop where
  | intro {name : String} {written : List Char} {scalar : Scalar}
      (named : isWord name.toList = true)
      (nonempty : name.toList ≠ [])
      (reached : name.toList.length ≤ nameReach)
      (holds : Holds written scalar) :
      IsLine ⟨name, scalar⟩ (name.toList ++ ':' :: ' ' :: (written ++ ['\n']))

/-- A line starts with a character of its name. -/
theorem IsLine.exists_first
    {entry : Entry}
    {line : List Char}
    (isLine : IsLine entry line) :
    ∃ first ∈ wordCharacters, ∃ others, line = first :: others := by
  obtain ⟨named, nonempty, -, -⟩ := isLine
  rename_i name _ _
  cases characters : name.toList with
  | nil =>
      exact absurd characters nonempty
  | cons first others =>
      have member : first ∈ name.toList := characters ▸ List.mem_cons_self
      exact ⟨first, by simpa using List.all_eq_true.mp named first member, _, rfl⟩

theorem IsLine.printable
    {entry : Entry}
    {line : List Char}
    (isLine : IsLine entry line) :
    ∀ character ∈ line, isPrintable character = true := by
  obtain ⟨named, -, -, holds⟩ := isLine
  simp only [List.forall_mem_append, List.forall_mem_cons]
  exact ⟨(standsPlain_of_isWord named).printable, rfl, rfl, holds.printable, rfl, by simp⟩

/-- The name of a line is read up to behind its colon. -/
theorem readEntryName_eq
    {name : String}
    (named : isWord name.toList = true)
    (nonempty : name.toList ≠ [])
    (reached : name.toList.length ≤ nameReach)
    (behind : List Char) :
    readEntryName ⟨true, 0, name.toList ++ ':' :: ' ' :: behind⟩ =
      some (name, ⟨false, name.toList.length + 1, ' ' :: behind⟩) := by
  have ends : endsToken (' ' :: behind) = true := rfl
  have colon : BeginsToken (':' :: ' ' :: behind) := by
    rintro _ ⟨rfl⟩
    decide
  rw [readEntryName, (standsPlain_of_isWord named).readScalar_eq nonempty, readPlain_colon ends]
  simp [plainEnd, Gap.spansLines, TokenStart.next, TokenStart.skip, colon.nextToken_eq, ends,
    reached]

/-- What holds a scalar is read up to the token on the next line. -/
theorem Holds.readEntryValue_eq
    {written behind : List Char}
    {scalar : Scalar}
    {column : Nat}
    (holds : Holds written scalar)
    (begins : BeginsToken behind) :
    readEntryValue 0 ⟨false, column + 1, ' ' :: (written ++ '\n' :: behind)⟩ =
      some (scalar, ⟨true, 0, behind⟩) := by
  obtain ⟨spans, after, read, next_eq⟩ := holds.reads (column + 2) behind begins
  have place_eq :
      TokenStart.next ⟨false, column + 1, ' ' :: (written ++ '\n' :: behind)⟩ =
        ⟨false, column + 2, written ++ '\n' :: behind⟩ :=
    (holds.begins ('\n' :: behind)).nextToken_space
  rw [readEntryValue, place_eq]
  simp [read, next_eq]

section Entries

variable {entry : Entry} {line behind : List Char} {limit : Nat}

/-- A line is a token, and no marker between documents. -/
theorem IsLine.begins
    (isLine : IsLine entry line)
    (behind : List Char) :
    BeginsToken (line ++ behind) ∧ startsDocumentMarker (line ++ behind) = false := by
  have noMarker : startsDocumentMarker (line ++ behind) = false := by
    obtain ⟨first, member, others, rfl⟩ := isLine.exists_first
    obtain ⟨-, -, -, noSign⟩ := wordCharacter_isPlain first member
    simp only [List.mem_cons, List.not_mem_nil, or_false, not_or] at noSign
    obtain ⟨-, -, -, notHyphen, notPoint⟩ := noSign
    exact startsDocumentMarker_cons notHyphen notPoint _
  obtain ⟨named, nonempty, -, -⟩ := isLine
  rw [List.append_assoc] at noMarker ⊢
  exact ⟨(standsPlain_of_isWord named).beginsToken nonempty _, noMarker⟩

/-- The entry of a line is read, and then what stands behind. -/
theorem IsLine.readEntries_eq
    (isLine : IsLine entry line)
    (begins : BeginsToken behind)
    (noMarker : startsDocumentMarker behind = false) :
    readEntries 0 (limit + 1) ⟨true, 0, line ++ behind⟩ =
      if behind = [] then some [entry]
      else (readEntries 0 limit ⟨true, 0, behind⟩).map (entry :: ·) := by
  obtain ⟨named, nonempty, reached, holds⟩ := isLine
  rename_i name written scalar
  have text_eq : name.toList ++ ':' :: ' ' :: (written ++ ['\n']) ++ behind =
      name.toList ++ ':' :: ' ' :: (written ++ '\n' :: behind) := by
    simp
  rw [text_eq, readEntries, readEntryName_eq named nonempty reached]
  simp only [Option.bind_eq_bind, Option.bind_some]
  rw [holds.readEntryValue_eq begins]
  simp only [Option.bind_some]
  obtain ⟨-, noEnd⟩ := Bool.or_eq_false_iff.mp noMarker
  have ends_iff : endsDocument ⟨true, 0, behind⟩ = true ↔ behind = [] := by
    simp [endsDocument, isFinished, noEnd]
  have notMarked : TokenStart.startsMarkerLine ⟨true, 0, behind⟩ = false := by
    simp [TokenStart.startsMarkerLine, noMarker]
  by_cases last : behind = []
  · rw [if_pos (ends_iff.mpr last), if_pos last]
  · rw [if_neg (mt ends_iff.mp last), if_neg last]
    simp [notMarked, Option.map_eq_bind]

end Entries

/-- Lines are read entry by entry. -/
theorem readEntries_flatten
    {entries : List Entry}
    {lines : List (List Char)}
    {limit : Nat}
    (areLines : List.Forall₂ IsLine entries lines)
    (nonempty : entries ≠ [])
    (enough : entries.length ≤ limit) :
    readEntries 0 limit ⟨true, 0, lines.flatten⟩ = some entries := by
  induction areLines generalizing limit with
  | nil =>
      exact absurd rfl nonempty
  | cons isLine areLines inductionHypothesis =>
      rename_i entry line entries lines
      rcases limit with _ | limit
      · cases enough
      · have entriesFit : entries.length ≤ limit := Nat.le_of_succ_le_succ enough
        -- the last line has the end of the text behind it, any other one a token
        cases areLines with
        | nil =>
            exact isLine.readEntries_eq (by simp [BeginsToken]) rfl
        | cons nextIsLine areLines =>
            rename_i next nextLine entries lines
            obtain ⟨begins, noMarker⟩ := nextIsLine.begins lines.flatten
            have notLast : nextLine ++ lines.flatten ≠ [] := by
              obtain ⟨first, -, others, rfl⟩ := nextIsLine.exists_first
              simp
            rw [List.flatten_cons, List.flatten_cons, isLine.readEntries_eq begins noMarker,
              if_neg notLast, ← List.flatten_cons, inductionHypothesis (by simp) entriesFit]
            rfl

/-! ## The whole text -/

/-- What can be printed may stand in a text, and its only break of lines is the line feed. -/
theorem printable_isAllowed
    {character : Char}
    (printable : isPrintable character = true) :
    isAllowed character = true ∧ character ≠ '\r' ∧ character ≠ '\u0085' := by
  refine ⟨?_, ?_, ?_⟩
  · simp only [isPrintable, Bool.or_eq_true, Bool.and_eq_true, decide_eq_true_eq,
      beq_iff_eq] at printable
    simp only [isAllowed, Bool.or_eq_true, Bool.and_eq_true, decide_eq_true_eq, beq_iff_eq]
    omega
  · rintro rfl
    exact absurd printable (by decide)
  · rintro rfl
    exact absurd printable (by decide)

theorem unifyBreaks_eq
    {text : List Char}
    (printable : ∀ character ∈ text, isPrintable character = true) :
    unifyBreaks text = text := by
  induction text with
  | nil =>
      rfl
  | cons character text inductionHypothesis =>
      obtain ⟨printableHere, printableBehind⟩ := List.forall_mem_cons.mp printable
      obtain ⟨-, notReturn, notNext⟩ := printable_isAllowed printableHere
      simp [unifyBreaks, notReturn, inductionHypothesis printableBehind]

theorem length_le_flatten
    {entries : List Entry}
    {lines : List (List Char)}
    (areLines : List.Forall₂ IsLine entries lines) :
    entries.length ≤ lines.flatten.length := by
  induction areLines with
  | nil =>
      exact Nat.le_refl _
  | cons isLine areLines inductionHypothesis =>
      obtain ⟨first, -, others, rfl⟩ := isLine.exists_first
      rw [List.length_cons, List.flatten_cons, List.length_append, List.length_cons]
      omega

theorem printable_flatten
    {entries : List Entry}
    {lines : List (List Char)}
    (areLines : List.Forall₂ IsLine entries lines) :
    ∀ character ∈ lines.flatten, isPrintable character = true := by
  induction areLines with
  | nil =>
      simp
  | cons isLine areLines inductionHypothesis =>
      rw [List.flatten_cons, List.forall_mem_append]
      exact ⟨isLine.printable, inductionHypothesis⟩

/-- Lines make up a text that is read as their entries. -/
theorem read_flatten
    {entries : List Entry}
    {lines : List (List Char)}
    (areLines : List.Forall₂ IsLine entries lines)
    (nonempty : entries ≠ []) :
    read (String.ofList lines.flatten) = some entries := by
  have printable := printable_flatten areLines
  have allowed : lines.flatten.all isAllowed = true :=
    List.all_eq_true.mpr fun character member =>
      (printable_isAllowed (printable character member)).1
  have entries_read := readEntries_flatten areLines nonempty (length_le_flatten areLines)
  rw [read, String.toList_ofList, if_pos allowed, unifyBreaks_eq printable]
  cases areLines with
  | nil =>
      exact absurd rfl nonempty
  | cons isLine areLines =>
      rename_i line _ lines
      obtain ⟨begins, noMarker⟩ := isLine.begins lines.flatten
      obtain ⟨first, member, others, rfl⟩ := isLine.exists_first
      obtain ⟨noStart, noEnd⟩ := Bool.or_eq_false_iff.mp noMarker
      have notBrace : first ≠ '\x7b' := by
        rintro rfl
        exact (wordCharacter_isPlain _ member).2.2.1 (by simp [startIndicators])
      rw [List.flatten_cons, TokenStart.next, begins.nextToken_eq, readDocument, noStart, noEnd]
      simpa [readContent, notBrace] using entries_read

end LteNas.Yaml
