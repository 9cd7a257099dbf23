import LteNas.Text.Utf8

namespace LteNas.Text

/-!
# Texts as UTF-8

A text that was written as UTF-8 is read back.  A character of several octets is
followed octet by octet: the first one promises how many follow, and each of
them adds six bits.
-/

/-- The octets of a text in UTF-8. -/
def utf8Octets (text : String) : List UInt8 :=
  text.toList.flatMap String.utf8EncodeChar

section Characters

variable {octet : UInt8} {octets : List UInt8} {lead : Utf8Lead} {number : Nat}

theorem toNat_ofNat_of_lt
    (small : number < 256) :
    (UInt8.ofNat number).toNat = number := by
  rw [UInt8.toNat_ofNat', Nat.mod_eq_of_lt small]

theorem readUtf8From_sole
    (promise : Utf8Lead.ofOctet? octet = some lead)
    (owes : lead.owed = 0) :
    readUtf8From none (octet :: octets) = Char.ofNat lead.bits :: readUtf8From none octets := by
  rw [readUtf8From, readUtf8From.start, promise]
  simp only [owes, if_true]

theorem readUtf8From_first
    (promise : Utf8Lead.ofOctet? octet = some lead)
    (owes : lead.owed ≠ 0) :
    readUtf8From none (octet :: octets) = readUtf8From (some lead) octets := by
  rw [readUtf8From, readUtf8From.start, promise]
  simp only [owes, if_false]

theorem Utf8Lead.isOwed
    (lead : Utf8Lead)
    (least : lead.low.toNat ≤ number + 128)
    (most : number + 128 ≤ lead.high.toNat) :
    (UInt8.ofNat (number + 128)).toNat = number + 128 ∧
      (lead.low ≤ UInt8.ofNat (number + 128) &&
        UInt8.ofNat (number + 128) ≤ lead.high) = true := by
  have high_lt := lead.high.toNat_lt
  have toNat_eq : (UInt8.ofNat (number + 128)).toNat = number + 128 :=
    toNat_ofNat_of_lt (by omega)
  refine ⟨toNat_eq, ?_⟩
  simp only [UInt8.le_iff_toNat_le, toNat_eq, least, most, decide_true, Bool.and_self]

variable {bits owed : Nat} {low high : UInt8}

/-- The octet that is owed last adds six bits and completes the character. -/
theorem readUtf8From_last
    (least : low.toNat ≤ number + 128)
    (most : number + 128 ≤ high.toNat) :
    readUtf8From (some ⟨bits, 1, low, high⟩) (UInt8.ofNat (number + 128) :: octets) =
      Char.ofNat (bits * 64 + number) :: readUtf8From none octets := by
  let lead : Utf8Lead := ⟨bits, 1, low, high⟩
  obtain ⟨toNat_eq, isNext⟩ := lead.isOwed least most
  rw [readUtf8From, if_pos isNext, toNat_eq]
  simp

/-- An octet that is owed earlier adds six bits. -/
theorem readUtf8From_next
    (least : low.toNat ≤ number + 128)
    (most : number + 128 ≤ high.toNat) :
    readUtf8From (some ⟨bits, owed + 2, low, high⟩) (UInt8.ofNat (number + 128) :: octets) =
      readUtf8From (some ⟨bits * 64 + number, owed + 1, 0x80, 0xBF⟩) octets := by
  let lead : Utf8Lead := ⟨bits, owed + 2, low, high⟩
  obtain ⟨toNat_eq, isNext⟩ := lead.isOwed least most
  rw [readUtf8From, if_pos isNext, toNat_eq]
  simp

end Characters

/-! ## What first octets promise -/

section Promises

variable {code : Nat}

theorem promise_sole
    (most : code ≤ 127) :
    Utf8Lead.ofOctet? (UInt8.ofNat code) = some ⟨code, 0, 0x80, 0xBF⟩ := by
  rw [Utf8Lead.ofOctet?, toNat_ofNat_of_lt (by omega), if_pos (by omega)]

theorem promise_two
    (least : 128 ≤ code)
    (most : code ≤ 2047) :
    Utf8Lead.ofOctet? (UInt8.ofNat (code / 64 % 32 + 192)) =
      some ⟨code / 64, 1, 0x80, 0xBF⟩ := by
  have bits_eq : code / 64 % 32 + 192 - 0xC0 = code / 64 := by
    omega
  simp only [Utf8Lead.ofOctet?]
  rw [toNat_ofNat_of_lt (by omega), if_neg (by omega), if_neg (by omega), if_pos (by omega),
    bits_eq]

/-- The second of three octets is bounded so that no form is too long and none a surrogate. -/
theorem promise_three
    (least : 2048 ≤ code)
    (most : code ≤ 65535)
    (valid : code < 0xD800 ∨ 0xDFFF < code) :
    ∃ low high,
      Utf8Lead.ofOctet? (UInt8.ofNat (code / 4096 % 16 + 224)) =
          some ⟨code / 4096, 2, low, high⟩ ∧
        low.toNat ≤ code / 64 % 64 + 128 ∧ code / 64 % 64 + 128 ≤ high.toNat := by
  have first_eq : code / 4096 % 16 + 224 = code / 4096 + 224 := by
    omega
  simp only [Utf8Lead.ofOctet?, first_eq]
  rw [toNat_ofNat_of_lt (by omega), if_neg (by omega), if_neg (by omega), if_neg (by omega)]
  by_cases isLeast : code / 4096 = 0
  · rw [isLeast, if_pos rfl]
    refine ⟨0xA0, 0xBF, rfl, ?_⟩
    simp only [UInt8.reduceToNat]
    omega
  rw [if_neg (by omega)]
  by_cases hasSurrogates : code / 4096 = 13
  · rw [hasSurrogates, if_pos rfl]
    refine ⟨0x80, 0x9F, rfl, ?_⟩
    simp only [UInt8.reduceToNat]
    omega
  rw [if_neg (by omega), if_pos (by omega), Nat.add_sub_cancel]
  refine ⟨0x80, 0xBF, rfl, ?_⟩
  simp only [UInt8.reduceToNat]
  omega

/-- The second of four octets is bounded so that no form is too long and none too great. -/
theorem promise_four
    (least : 65536 ≤ code)
    (most : code < 0x110000) :
    ∃ low high,
      Utf8Lead.ofOctet? (UInt8.ofNat (code / 262144 % 8 + 240)) =
          some ⟨code / 262144, 3, low, high⟩ ∧
        low.toNat ≤ code / 4096 % 64 + 128 ∧ code / 4096 % 64 + 128 ≤ high.toNat := by
  have first_eq : code / 262144 % 8 + 240 = code / 262144 + 240 := by
    omega
  simp only [Utf8Lead.ofOctet?, first_eq]
  rw [toNat_ofNat_of_lt (by omega), if_neg (by omega), if_neg (by omega), if_neg (by omega),
    if_neg (by omega), if_neg (by omega), if_neg (by omega)]
  by_cases isLeast : code / 262144 = 0
  · rw [isLeast, if_pos rfl]
    refine ⟨0x90, 0xBF, rfl, ?_⟩
    simp only [UInt8.reduceToNat]
    omega
  rw [if_neg (by omega)]
  by_cases isGreatest : code / 262144 = 4
  · rw [isGreatest, if_neg (by decide), if_pos rfl]
    refine ⟨0x80, 0x8F, rfl, ?_⟩
    simp only [UInt8.reduceToNat]
    omega
  rw [if_pos (by omega), Nat.add_sub_cancel]
  refine ⟨0x80, 0xBF, rfl, ?_⟩
  simp only [UInt8.reduceToNat]
  omega

end Promises

/-! ## Reading back -/

theorem tail_least
    (number : Nat) :
    (0x80 : UInt8).toNat ≤ number % 64 + 128 := by
  simp

theorem tail_most
    (number : Nat) :
    number % 64 + 128 ≤ (0xBF : UInt8).toNat := by
  simp only [UInt8.reduceToNat]
  omega

/-- A character is read off the front. -/
theorem readUtf8From_character
    (character : Char)
    (octets : List UInt8) :
    readUtf8From none (String.utf8EncodeChar character ++ octets) =
      character :: readUtf8From none octets := by
  have character_eq : Char.ofNat character.val.toNat = character :=
    Char.ofNat_toNat character
  have valid : character.val.toNat < 0xD800 ∨
      0xDFFF < character.val.toNat ∧ character.val.toNat < 0x110000 :=
    character.valid
  rw [String.utf8EncodeChar]
  generalize character.val.toNat = code at character_eq valid ⊢
  split
  · rename_i most
    rw [List.singleton_append, readUtf8From_sole (promise_sole most) rfl, character_eq]
  split
  · rename_i least most
    have bits_eq : code / 64 * 64 + code % 64 = code := by
      omega
    simp only [List.cons_append, List.nil_append]
    rw [readUtf8From_first (promise_two (by omega) most) Nat.one_ne_zero,
      readUtf8From_last (tail_least _) (tail_most _), bits_eq, character_eq]
  split
  · rename_i least most
    obtain ⟨low, high, promise, low_le, le_high⟩ := promise_three (by omega) most (by omega)
    have bits_eq : (code / 4096 * 64 + code / 64 % 64) * 64 + code % 64 = code := by
      omega
    simp only [List.cons_append, List.nil_append]
    rw [readUtf8From_first promise (Nat.succ_ne_zero 1), readUtf8From_next low_le le_high,
      readUtf8From_last (tail_least _) (tail_most _), bits_eq, character_eq]
  · rename_i greater
    have least : 65536 ≤ code := by
      omega
    obtain ⟨low, high, promise, low_le, le_high⟩ := promise_four least (by omega)
    have bits_eq :
        ((code / 262144 * 64 + code / 4096 % 64) * 64 + code / 64 % 64) * 64 + code % 64 =
          code := by
      omega
    simp only [List.cons_append, List.nil_append]
    rw [readUtf8From_first promise (Nat.succ_ne_zero 2), readUtf8From_next low_le le_high,
      readUtf8From_next (tail_least _) (tail_most _),
      readUtf8From_last (tail_least _) (tail_most _), bits_eq, character_eq]

/-- A text is read back from its octets. -/
theorem readUtf8_utf8Octets
    (text : String) :
    readUtf8 (utf8Octets text) = text := by
  have characters_eq : ∀ characters : List Char,
      readUtf8From none (characters.flatMap String.utf8EncodeChar) = characters := by
    intro characters
    induction characters with
    | nil =>
        rw [List.flatMap_nil, readUtf8From]
    | cons character characters inductionHypothesis =>
        rw [List.flatMap_cons, readUtf8From_character, inductionHypothesis]
  rw [readUtf8, utf8Octets, characters_eq, String.ofList_toList]

end LteNas.Text
