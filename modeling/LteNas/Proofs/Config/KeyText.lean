import LteNas.Config.Basic
import LteNas.Proofs.Octets.Hexadecimal
import LteNas.Proofs.Text.Separators

namespace LteNas.KeyText

/-!
# Texts that name a key

The digits of a key, in either letter case and with separators strewn in, name
it; so they do behind a marker that has blanks in front.
-/

/--
The characters are the digits of the key in either letter case, with separators
anywhere between and around them, behind blanks and a marker at most.
-/
inductive Names (key : Block) : List Char → Prop where
  | intro {front digits body : List Char} {marker : String}
      (blank : ∀ character ∈ front, Text.isBlank character = true)
      (marked : marker = "" ∨ marker = "0x")
      (spells : Hex.Spells digits key.toList)
      (strewn : Text.Strewn isSeparator digits body) :
      Names key (front ++ (marker.toList ++ body))

theorem blank_separates
    (character : Char)
    (blank : Text.isBlank character = true) :
    (!isSeparator character) = false := by
  simp [isSeparator, blank]

theorem alphabet_isPlain :
    ∀ character ∈ Hex.alphabet, character ≠ 'x' ∧ isSeparator character = false := by
  simp [Hex.alphabet, isSeparator, Text.isBlank]

/-- Without its mark a text has no marker. -/
theorem dropMarkers_of_unmarked
    {text : List Char}
    (unmarked : 'x' ∉ text) :
    dropMarkers text = text := by
  fun_cases dropMarkers text
  · simp at unmarked
  · rfl

section Digits

variable {digits body front : List Char} {octets : List UInt8}

/-- Digits with separators strewn in have no marker in front. -/
theorem unmarked_of_strewn
    (spells : Hex.Spells digits octets)
    (strewn : Text.Strewn isSeparator digits body) :
    'x' ∉ body := by
  intro member
  rcases strewn.mem member with separator | digit
  · exact absurd separator (by decide)
  · exact (alphabet_isPlain _ (spells.mem_alphabet digit)).1 rfl

theorem filter_of_strewn
    (spells : Hex.Spells digits octets)
    (strewn : Text.Strewn isSeparator digits body) :
    (body.filter fun character => !isSeparator character) = digits :=
  strewn.filter_eq fun _ member => (alphabet_isPlain _ (spells.mem_alphabet member)).2

end Digits

/-- The digits of a text that names a key are the digits of the key. -/
theorem Names.digits_spell
    {key : Block}
    {text : List Char}
    (names : Names key text) :
    Hex.Spells (digits text) key.toList := by
  obtain ⟨blank, rfl | rfl, spells, strewn⟩ := names
  · rename_i front _ body
    have unmarked : 'x' ∉ Text.trim (front ++ body) := by
      intro member
      rcases List.mem_append.mp (Text.mem_of_mem_trim member) with inFront | inBody
      · exact absurd (blank _ inFront) (by decide)
      · exact unmarked_of_strewn spells strewn inBody
    rw [String.toList_empty, List.nil_append, digits, dropMarkers_of_unmarked unmarked,
      Text.filter_trim blank_separates, List.filter_append,
      Text.filter_blanks blank_separates blank, List.nil_append, filter_of_strewn spells strewn]
    exact spells
  · rename_i front _ body
    have unmarked : 'x' ∉ Text.trimEnd body := by
      obtain ⟨blanks, body_eq, -⟩ := Text.exists_trimEnd body
      intro member
      apply unmarked_of_strewn spells strewn
      rw [body_eq]
      exact List.mem_append_left _ member
    have trim_eq : Text.trim (front ++ ("0x".toList ++ body)) = '0' :: 'x' :: Text.trimEnd body :=
      Text.trim_append_pair blank (by decide) (by decide)
    rw [digits, trim_eq, dropMarkers, dropMarkers_of_unmarked unmarked,
      Text.filter_trimEnd blank_separates, filter_of_strewn spells strewn]
    exact spells

theorem ofOctets_toList
    (key : Block) :
    ofOctets key.toList = .ok key := by
  rcases key with ⟨octets, length⟩
  simp [ofOctets, keyLength, Vector.toList, length]

/-- A text that names a key is read as it. -/
theorem Names.read_eq
    {key : Block}
    {text : String}
    (names : Names key text.toList) :
    read text = .ok (some key) := by
  have spells := names.digits_spell
  have nonempty : (digits text.toList).isEmpty = false := by
    rw [List.isEmpty_eq_false_iff]
    intro none_left
    rw [none_left] at spells
    have length_eq := congrArg List.length spells.eq_nil
    simp at length_eq
  rw [read]
  simp only [nonempty, Hex.decode_eq_ok_iff.mpr spells, ofOctets_toList]
  rfl

/-- The digits that a key is written in name it. -/
theorem names_encode
    (key : Block) :
    Names key (Hex.encode key.toList).toList :=
  @Names.intro key [] _ _ "" (by simp) (.inl rfl) (Hex.spells_encode key.toList)
    (.refl isSeparator _)

end LteNas.KeyText
