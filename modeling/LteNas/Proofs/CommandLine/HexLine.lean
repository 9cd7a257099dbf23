import LteNas.CommandLine.HexLine
import Mathlib.Data.List.Basic

namespace LteNas

/-!
# Kinds of input lines

A line is blank, a comment, malformed, or holds one message.  Which of the first
two it is can be seen without trimming it.
-/

namespace Text

theorem head?_trimStart
    (characters : List Char) :
    (trimStart characters).head? = characters.find? fun character => !isBlank character := by
  rw [trimStart]
  induction characters with
  | nil =>
      rfl
  | cons character others inductionHypothesis =>
      cases blank : isBlank character <;> simp [blank, inductionHypothesis]

/-- Trimming keeps the first character that is not blank in front. -/
theorem head?_trim
    (characters : List Char) :
    (trim characters).head? = characters.find? fun character => !isBlank character := by
  have front_eq := head?_trimStart characters
  rw [← front_eq, trim]
  cases shown : trimStart characters with
  | nil =>
      rfl
  | cons character others =>
      have visible : isBlank character = false := by
        rw [shown, List.head?_cons] at front_eq
        simpa using List.find?_some front_eq.symm
      -- the end is trimmed up to this character at the most
      simp only [trimEnd, List.reverse_cons, List.dropWhile_append]
      split <;> simp [visible]

end Text

namespace HexLine

/-- The message of a line, if it holds one. -/
def message? (line : String) : Option (List UInt8) :=
  match read line with
  | .ok octets? => octets?
  | .error _ => none

/-- Every character of the line is blank. -/
def IsBlank (line : String) : Prop :=
  ∀ character ∈ line.toList, Text.isBlank character = true

/-- The first character of the line that is not blank is a number sign. -/
def IsComment (line : String) : Prop :=
  line.toList.find? (fun character => !Text.isBlank character) = some '#'

/-- The line cannot be read. -/
def IsMalformed (line : String) : Prop :=
  ∃ fault, read line = .error fault

theorem isSilent_trim
    (line : String) :
    isSilent (Text.trim line.toList) = true ↔ IsBlank line ∨ IsComment line := by
  have front_eq := Text.head?_trim line.toList
  rw [IsBlank, IsComment, ← front_eq]
  have blank_iff :
      Text.trim line.toList = [] ↔
        ∀ character ∈ line.toList, Text.isBlank character = true := by
    rw [← List.head?_eq_none_iff, front_eq, List.find?_eq_none]
    simp
  simp [isSilent, blank_iff]

/-- A line that can be read holds no message just if it is blank or a comment. -/
theorem read_eq_none_iff
    {line : String} :
    read line = .ok none ↔ IsBlank line ∨ IsComment line := by
  rw [← isSilent_trim, read]
  split
  · simp_all
  · cases readTrimmed (Text.trim line.toList) <;> simp_all [Except.map]

theorem message?_eq_none_iff
    {line : String} :
    message? line = none ↔ IsBlank line ∨ IsComment line ∨ IsMalformed line := by
  rw [← or_assoc, ← read_eq_none_iff, message?, IsMalformed]
  cases read line <;> simp

end HexLine

end LteNas
