import LteNas.Text.Blank
import Mathlib.Data.List.DropRight

namespace LteNas.Text

/-!
# Blanks and separators around characters

Trimming takes away the blanks at the ends and nothing else.  Characters that
have separators strewn among them are left when the separators are taken out.
-/

/-! ## Trimming -/

section Trimming

variable {character first second : Char} {front text : List Char}

theorem trimStart_append
    (blank : ∀ character ∈ front, isBlank character = true) :
    trimStart (front ++ text) = trimStart text :=
  List.dropWhile_append_of_pos blank

theorem trimStart_of_visible
    (visible : isBlank first = false) :
    trimStart (first :: text) = first :: text := by
  rw [trimStart, List.dropWhile_cons_of_neg]
  simp [visible]

/-- Nothing in front of a visible character is taken away at the end. -/
theorem trimEnd_append_cons
    (visible : isBlank character = false) :
    trimEnd (front ++ character :: text) = front ++ character :: trimEnd text := by
  rw [trimEnd, trimEnd, List.reverse_append, List.reverse_cons, List.append_assoc,
    List.dropWhile_append]
  split
  · rename_i vanishes
    rw [List.isEmpty_iff.mp vanishes]
    simp [visible]
  · simp

/-- Behind two visible characters a text is trimmed at its end only. -/
theorem trim_append_pair
    (blank : ∀ character ∈ front, isBlank character = true)
    (firstVisible : isBlank first = false)
    (secondVisible : isBlank second = false) :
    trim (front ++ first :: second :: text) = first :: second :: trimEnd text := by
  rw [trim, trimStart_append blank, trimStart_of_visible firstVisible]
  exact @trimEnd_append_cons second [first] text secondVisible

/-- At its end a text loses blanks. -/
theorem exists_trimEnd
    (text : List Char) :
    ∃ blanks, text = trimEnd text ++ blanks ∧
      ∀ character ∈ blanks, isBlank character = true :=
  ⟨text.rtakeWhile isBlank, List.rdropWhile_append_rtakeWhile.symm,
    fun _ => List.mem_rtakeWhile_imp⟩

/-- At both ends a text loses blanks. -/
theorem exists_trim
    (text : List Char) :
    ∃ front back,
      text = front ++ trim text ++ back ∧
        (∀ character ∈ front, isBlank character = true) ∧
        ∀ character ∈ back, isBlank character = true := by
  obtain ⟨back, start_eq, backBlank⟩ := exists_trimEnd (trimStart text)
  refine ⟨text.takeWhile isBlank, back, ?_, fun _ => List.mem_takeWhile_imp, backBlank⟩
  rw [List.append_assoc, trim, ← start_eq, trimStart, List.takeWhile_append_dropWhile]

theorem mem_of_mem_trim
    (member : character ∈ trim text) :
    character ∈ text := by
  obtain ⟨front, back, text_eq, -⟩ := exists_trim text
  rw [text_eq]
  exact List.mem_append_left _ (List.mem_append_right _ member)

section Selecting

variable {selects : Char → Bool}

theorem filter_blanks
    (leavesOut : ∀ character, isBlank character = true → selects character = false)
    {blanks : List Char}
    (blank : ∀ character ∈ blanks, isBlank character = true) :
    blanks.filter selects = [] := by
  rw [List.filter_eq_nil_iff]
  intro character member
  simp [leavesOut character (blank character member)]

theorem filter_trimEnd
    (leavesOut : ∀ character, isBlank character = true → selects character = false)
    (text : List Char) :
    (trimEnd text).filter selects = text.filter selects := by
  obtain ⟨blanks, text_eq, blank⟩ := exists_trimEnd text
  conv_rhs => rw [text_eq]
  rw [List.filter_append, filter_blanks leavesOut blank, List.append_nil]

/-- A selection that leaves out blanks is not changed by trimming. -/
theorem filter_trim
    (leavesOut : ∀ character, isBlank character = true → selects character = false)
    (text : List Char) :
    (trim text).filter selects = text.filter selects := by
  obtain ⟨front, back, text_eq, frontBlank, backBlank⟩ := exists_trim text
  conv_rhs => rw [text_eq]
  rw [List.filter_append, List.filter_append, filter_blanks leavesOut frontBlank,
    filter_blanks leavesOut backBlank, List.nil_append, List.append_nil]

end Selecting

end Trimming

/-! ## Strewn separators -/

/-- Characters in their order, with separators anywhere between and around them. -/
inductive Strewn (isSeparator : Char → Bool) : List Char → List Char → Prop where
  | nil :
      Strewn isSeparator [] []
  | separator {character : Char} {characters text : List Char}
      (separates : isSeparator character = true)
      (behind : Strewn isSeparator characters text) :
      Strewn isSeparator characters (character :: text)
  | character {character : Char} {characters text : List Char}
      (behind : Strewn isSeparator characters text) :
      Strewn isSeparator (character :: characters) (character :: text)

namespace Strewn

variable {isSeparator : Char → Bool} {characters text : List Char}

/-- Without the separators the characters are left, if none of them is one. -/
theorem filter_eq
    (strewn : Strewn isSeparator characters text)
    (proper : ∀ character ∈ characters, isSeparator character = false) :
    (text.filter fun character => !isSeparator character) = characters := by
  induction strewn with
  | nil =>
      rfl
  | separator separates _ inductionHypothesis =>
      simp [separates, inductionHypothesis proper]
  | character _ inductionHypothesis =>
      obtain ⟨here, behind⟩ := List.forall_mem_cons.mp proper
      simp [here, inductionHypothesis behind]

protected theorem refl
    (isSeparator : Char → Bool)
    (characters : List Char) :
    Strewn isSeparator characters characters := by
  induction characters with
  | nil =>
      exact .nil
  | cons _ _ inductionHypothesis =>
      exact .character inductionHypothesis

/-- A text is what is left of it, with its separators strewn in. -/
theorem of_filter
    (isSeparator : Char → Bool)
    (text : List Char) :
    Strewn isSeparator (text.filter fun character => !isSeparator character) text := by
  induction text with
  | nil =>
      exact .nil
  | cons character text inductionHypothesis =>
      by_cases separates : isSeparator character = true
      · simp only [List.filter_cons, separates, Bool.not_true, Bool.false_eq_true, if_false]
        exact .separator separates inductionHypothesis
      · simp only [List.filter_cons, separates, Bool.not_false, if_true]
        exact .character inductionHypothesis

/-- A character of the text is a separator or one of the characters. -/
theorem mem
    {character : Char}
    (strewn : Strewn isSeparator characters text)
    (member : character ∈ text) :
    isSeparator character = true ∨ character ∈ characters := by
  induction strewn with
  | nil =>
      cases member
  | separator separates _ inductionHypothesis =>
      rcases List.mem_cons.mp member with rfl | member
      · exact .inl separates
      · exact inductionHypothesis member
  | character _ inductionHypothesis =>
      rcases List.mem_cons.mp member with rfl | member
      · exact .inr List.mem_cons_self
      · exact (inductionHypothesis member).imp id (List.mem_cons_of_mem _)

end Strewn

end LteNas.Text
