import LteNas.Proofs.Text.Headings

namespace LteNas.Text

/-!
# Trimming the end of lines

The blank characters at the end of a text are those of its last line, if that
line has anything else in it.
-/

/-- A text without the blank characters at its end. -/
def trimmed (text : String) : String :=
  String.ofList (trimEnd text.toList)

/-- Trimming takes nothing from what stands in front of a visible text. -/
theorem trimmed_append
    {front back : String}
    (visible : IsVisible back) :
    trimmed (front ++ back) = front ++ trimmed back := by
  obtain ⟨character, member, shown⟩ := visible
  have kept : (back.toList.reverse.dropWhile isBlank).isEmpty = false := by
    rw [List.isEmpty_eq_false_iff]
    intro vanishes
    have parts :
        back.toList.reverse.takeWhile isBlank ++ back.toList.reverse.dropWhile isBlank =
          back.toList.reverse :=
      List.takeWhile_append_dropWhile
    rw [vanishes, List.append_nil] at parts
    have blank : character ∈ back.toList.reverse.takeWhile isBlank := by
      rw [parts]
      exact List.mem_reverse.mpr member
    have isBlank_eq := List.all_eq_true.mp List.all_takeWhile character blank
    rw [shown] at isBlank_eq
    contradiction
  rw [trimmed, trimEnd, String.toList_append, List.reverse_append, List.dropWhile_append, kept,
    if_neg Bool.false_ne_true, List.reverse_append, List.reverse_reverse, String.ofList_append,
    String.ofList_toList]
  rfl

theorem IsUnbroken.trimmed
    {text : String}
    (unbroken : IsUnbroken text) :
    IsUnbroken (trimmed text) := by
  rw [Text.trimmed, isUnbroken_ofList]
  intro member
  apply unbroken
  have kept := (List.dropWhile_sublist isBlank).subset (List.mem_reverse.mp member)
  exact List.mem_reverse.mp kept

/-- What joined lines have in front of the last one does not depend on it. -/
theorem exists_before_last
    (separator : String)
    (front : List String) :
    ∃ before : String, ∀ last : String,
      separator.intercalate (front ++ [last]) = before ++ last := by
  cases front with
  | nil =>
      exact ⟨"", fun last => by simp⟩
  | cons line lines =>
      refine ⟨separator.intercalate (line :: lines) ++ separator, fun last => ?_⟩
      rw [String.intercalate_append_of_ne_nil (List.cons_ne_nil _ _) (List.cons_ne_nil _ _),
        String.intercalate_singleton]

/-- The lines of a trimmed text are those that were joined, the last one trimmed. -/
theorem cut_trimmed
    {front : List String}
    {last : String}
    (unbroken : ∀ line ∈ front ++ [last], IsUnbroken line)
    (visible : IsVisible last) :
    cut (trimmed ("\n".intercalate (front ++ [last]))) = front ++ [trimmed last] := by
  obtain ⟨before, joined⟩ := exists_before_last "\n" front
  rw [joined, trimmed_append visible, ← joined]
  apply cut_intercalate
  · obtain ⟨frontUnbroken, lastUnbroken⟩ := List.forall_mem_append.mp unbroken
    refine List.forall_mem_append.mpr ⟨frontUnbroken, ?_⟩
    rw [List.forall_mem_singleton] at lastUnbroken ⊢
    exact lastUnbroken.trimmed
  · simp

end LteNas.Text
