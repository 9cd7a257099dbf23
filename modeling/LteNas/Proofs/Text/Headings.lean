import LteNas.Proofs.Text.Lines

namespace LteNas.Text

/-!
# The beginnings of lines

Behind its indentation a line begins with a name, or with words that are the same
for every message.  Such a beginning can be told at sight, unlike the exclamation
mark of a line that tells a finding.
-/

/-- A line without the spaces in front. -/
def unindented (line : String) : String :=
  String.ofList (line.toList.dropWhile (· == ' '))

/-- The line reads as one that tells a finding. -/
def IsMarked (line : String) : Prop :=
  ['!', ' '] <+: (unindented line).toList

instance (line : String) : Decidable (IsMarked line) :=
  inferInstanceAs (Decidable (['!', ' '] <+: (unindented line).toList))

/-- The first character that is not a space. -/
def firstShown? (text : String) : Option Char :=
  text.toList.find? (· != ' ')

def IsUnmarked (text : String) : Prop :=
  firstShown? text ≠ some '!'

/-- The text does not vanish when it is trimmed. -/
def IsVisible (text : String) : Prop :=
  ∃ character ∈ text.toList, isBlank character = false

/-- The character is visible and no exclamation mark. -/
def isPlainMark (character : Char) : Bool :=
  character != '!' && !isBlank character

/-- Characters of one line, the first of which to be shown is plain. -/
def areHeading (characters : List Char) : Bool :=
  characters.all (· != '\n') && (characters.find? (· != ' ')).any isPlainMark

/-- A line that starts like this can be told at sight. -/
structure IsHeading (text : String) : Prop where
  isUnbroken : IsUnbroken text
  begins : (firstShown? text).any isPlainMark = true

section Texts

variable {first second text : String} {characters : List Char}

theorem firstShown?_append :
    firstShown? (first ++ second) = (firstShown? first).or (firstShown? second) := by
  rw [firstShown?, String.toList_append, List.find?_append]
  rfl

/-- Whether a literal is a heading is decided on its characters. -/
theorem IsHeading.of_characters
    (heading : areHeading characters = true) :
    IsHeading (String.ofList characters) where
  isUnbroken := .of_characters (Bool.and_eq_true _ _ ▸ heading).1
  begins := by
    rw [firstShown?, String.toList_ofList]
    exact (Bool.and_eq_true _ _ ▸ heading).2

theorem IsHeading.append
    (heading : IsHeading first)
    (unbroken : IsUnbroken second) :
    IsHeading (first ++ second) where
  isUnbroken := isUnbroken_append.mpr ⟨heading.isUnbroken, unbroken⟩
  begins := by
    obtain ⟨character, found, plain⟩ := (Option.any_eq_true _ _).mp heading.begins
    rw [firstShown?_append, found]
    exact plain

theorem IsHeading.afterSpace
    (heading : IsHeading text) :
    IsHeading (" " ++ text) where
  isUnbroken := isUnbroken_append.mpr ⟨.of_characters rfl, heading.isUnbroken⟩
  begins := by
    rw [firstShown?_append]
    exact heading.begins

theorem IsHeading.isUnmarked
    (heading : IsHeading text) :
    IsUnmarked text := by
  obtain ⟨character, found, plain⟩ := (Option.any_eq_true _ _).mp heading.begins
  rw [IsUnmarked, found]
  rintro ⟨⟩
  contradiction

theorem IsHeading.isVisible
    (heading : IsHeading text) :
    IsVisible text := by
  obtain ⟨character, found, plain⟩ := (Option.any_eq_true _ _).mp heading.begins
  rw [isPlainMark, Bool.and_eq_true, Bool.not_eq_true'] at plain
  exact ⟨character, List.mem_of_find?_eq_some found, plain.2⟩

end Texts

/-- Headings have the property, and a text has it whatever heading stands behind the text. -/
structure IsHeadwise (good : String → Prop) : Prop where
  of_heading : ∀ {text : String}, IsHeading text → good text
  append : ∀ {text heading : String}, good text → IsHeading heading → good (text ++ heading)

theorem isUnbroken_isHeadwise :
    IsHeadwise IsUnbroken where
  of_heading := IsHeading.isUnbroken
  append := fun unbroken heading => isUnbroken_append.mpr ⟨unbroken, heading.isUnbroken⟩

theorem isUnmarked_isHeadwise :
    IsHeadwise IsUnmarked where
  of_heading := IsHeading.isUnmarked
  append := by
    intro text heading unmarked isHeading
    rw [IsUnmarked, firstShown?_append]
    rw [IsUnmarked] at unmarked
    cases found : firstShown? text with
    | none =>
        exact isHeading.isUnmarked
    | some character =>
        rwa [found] at unmarked

/-! ## Indented lines -/

section Indented

variable {text : String} (count : Nat)

theorem unindented_append :
    unindented (String.ofList (List.replicate count ' ') ++ text) = unindented text := by
  rw [unindented, unindented, String.toList_append, String.toList_ofList]
  congr 1
  induction count with
  | zero =>
      rfl
  | succ count inductionHypothesis =>
      exact inductionHypothesis

theorem isMarked_append_iff :
    IsMarked (String.ofList (List.replicate count ' ') ++ text) ↔ IsMarked text := by
  rw [IsMarked, IsMarked, unindented_append]

end Indented

section Marks

variable {text : String}

/-- What is left of a line starts with the first character that is shown. -/
theorem head?_unindented :
    (unindented text).toList.head? = firstShown? text := by
  rw [unindented, firstShown?, String.toList_ofList]
  induction text.toList with
  | nil =>
      rfl
  | cons character characters inductionHypothesis =>
      by_cases isSpace : character = ' '
      · simpa [isSpace] using inductionHypothesis
      · simp [isSpace]

theorem IsUnmarked.not_isMarked
    (unmarked : IsUnmarked text) :
    ¬ IsMarked text := by
  rintro ⟨rest, shape⟩
  apply unmarked
  rw [← head?_unindented, ← shape]
  rfl

theorem unindented_mark :
    unindented ("! " ++ text) = "! " ++ text := by
  have shape : "! " ++ text = String.ofList ('!' :: ' ' :: text.toList) := by
    rw [← String.toList_inj]
    simp
  rw [shape, unindented, String.toList_ofList]
  rfl

theorem isMarked_mark :
    IsMarked ("! " ++ text) := by
  rw [IsMarked, unindented_mark, String.toList_append]
  exact List.prefix_append _ _

end Marks

end LteNas.Text
