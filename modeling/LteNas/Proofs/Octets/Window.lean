import LteNas.Octets.Window
import Mathlib.Algebra.Group.Nat.Defs
import Mathlib.Data.List.Induction

namespace LteNas

/-!
# Reads of a window

A read is decided by the number of unread octets alone.  Every read is stated
here as a choice on that number, so that later modules never look into the
definitions of the reads again.
-/

/-! ## Big-endian numbers -/

/-- A further octet at the end weighs least. -/
theorem bigEndian_append
    (octets : List UInt8)
    (last : UInt8) :
    bigEndian (octets ++ [last]) = bigEndian octets * 256 + last.toNat := by
  simp [bigEndian]

/-- A number has as many octets as it is written with. -/
@[simp] theorem bigEndianOctets_length
    (width number : Nat) :
    (bigEndianOctets width number).length = width := by
  induction width generalizing number with
  | zero =>
      rfl
  | succ width inductionHypothesis =>
      simp [bigEndianOctets, inductionHypothesis]

/-- Octets spell a number that fits into them. -/
theorem bigEndian_lt
    (octets : List UInt8) :
    bigEndian octets < 256 ^ octets.length := by
  induction octets using List.reverseRecOn with
  | nil =>
      simp [bigEndian]
  | append_singleton octets last inductionHypothesis =>
      have small : last.toNat < 256 :=
        last.toNat_lt
      rw [bigEndian_append, List.length_append, List.length_singleton, Nat.pow_succ]
      omega

/-- Octets are the number that they spell, written with as many octets. -/
theorem bigEndianOctets_bigEndian
    (octets : List UInt8) :
    bigEndianOctets octets.length (bigEndian octets) = octets := by
  induction octets using List.reverseRecOn with
  | nil =>
      rfl
  | append_singleton octets last inductionHypothesis =>
      have small : last.toNat < 256 :=
        last.toNat_lt
      have lowest : (bigEndian octets * 256 + last.toNat) % 256 = last.toNat := by
        omega
      have others : (bigEndian octets * 256 + last.toNat) / 256 = bigEndian octets := by
        omega
      rw [bigEndian_append, List.length_append, List.length_singleton, bigEndianOctets,
        lowest, others, inductionHypothesis, UInt8.ofNat_toNat]

/-- Any two octets are a number of sixteen bits. -/
theorem exists_word
    (octets : List UInt8)
    (length_eq : octets.length = 2) :
    ∃ word : UInt16, bigEndianOctets 2 word.toNat = octets := by
  have small : bigEndian octets < 2 ^ 16 := by
    have fits := bigEndian_lt octets
    rw [length_eq] at fits
    exact fits
  refine ⟨UInt16.ofNat (bigEndian octets), ?_⟩
  rw [UInt16.toNat_ofNat_of_lt' small, ← length_eq]
  exact bigEndianOctets_bigEndian octets

/-- The octet in a place of a number that is written with the most significant octet first. -/
theorem bigEndianOctets_getElem?
    {width place : Nat}
    (within : place < width)
    (number : Nat) :
    (bigEndianOctets width number)[place]? =
      some (UInt8.ofNat (number / 256 ^ (width - 1 - place))) := by
  induction width generalizing number with
  | zero =>
      contradiction
  | succ width inductionHypothesis =>
      rw [bigEndianOctets]
      by_cases isLast : place = width
      · subst place
        have lowest : UInt8.ofNat (number % 256) = UInt8.ofNat number :=
          UInt8.ofNat_mod_size
        rw [List.getElem?_append_right (by simp)]
        simp [lowest]
      · have earlier : place < width := by
          omega
        have weight : 256 * 256 ^ (width - 1 - place) = 256 ^ (width + 1 - 1 - place) := by
          rw [← Nat.pow_succ']
          congr 1
          omega
        rw [List.getElem?_append_left (by simpa using earlier), inductionHypothesis earlier,
          Nat.div_div_eq_div_mul, weight]

/-- A number that fits is read back from its octets. -/
theorem bigEndian_bigEndianOctets
    {width number : Nat}
    (fits : number < 256 ^ width) :
    bigEndian (bigEndianOctets width number) = number := by
  induction width generalizing number with
  | zero =>
      have zero : number = 0 := by
        simpa using fits
      simp [bigEndianOctets, bigEndian, zero]
  | succ width inductionHypothesis =>
      have others : number / 256 < 256 ^ width := by
        rw [Nat.pow_succ] at fits
        omega
      have lowest : (UInt8.ofNat (number % 256)).toNat = number % 256 := by
        simp
      rw [bigEndianOctets, bigEndian_append, inductionHypothesis others, lowest]
      omega

namespace Window

variable (window : Window) (count : Nat)

@[simp] theorem ofOctets_rest
    (octets : List UInt8)
    (base : Nat) :
    (ofOctets octets base).rest = octets := by
  rfl

@[simp] theorem ofOctets_position
    (octets : List UInt8)
    (base : Nat) :
    (ofOctets octets base).position = base := by
  rfl

@[simp] theorem advance_rest :
    (window.advance count).rest = window.rest.drop count := by
  rfl

/-- Behind a front stand the octets that follow it. -/
theorem rest_behind
    {window : Window}
    {front behind : List UInt8}
    (shape : window.rest = front ++ behind) :
    (window.advance front.length).rest = behind := by
  rw [advance_rest, shape, List.drop_left]

theorem remaining_of_append
    {window : Window}
    {front behind : List UInt8}
    (shape : window.rest = front ++ behind) :
    window.remaining = front.length + behind.length := by
  rw [remaining, shape, List.length_append]

@[simp] theorem advance_position :
    (window.advance count).position = window.position + count := by
  simp [advance, position, Nat.add_assoc]

@[simp] theorem advance_remaining :
    (window.advance count).remaining = window.remaining - count := by
  simp [remaining]

/-- Reading on twice is reading on once, by the sum. -/
theorem advance_advance
    (more : Nat) :
    (window.advance count).advance more = window.advance (count + more) := by
  simp [advance, Nat.add_assoc]

@[simp] theorem advance_zero :
    window.advance 0 = window := by
  simp [advance]

/-- A read that fits leaves the end of the window where it is. -/
theorem advance_stop
    {window : Window}
    {count : Nat}
    (fits : count ≤ window.remaining) :
    (window.advance count).stop = window.stop := by
  simp only [stop, advance_position, advance_remaining]
  omega

/-- A read that fits can be followed by reading everything. -/
theorem advance_exhaust
    {window : Window}
    {count : Nat}
    (fits : count ≤ window.remaining) :
    (window.advance count).exhaust = window.exhaust := by
  have total : count + (window.remaining - count) = window.remaining := by
    omega
  rw [exhaust, advance_remaining, advance_advance, total, exhaust]

/-- A window without octets has nothing to exhaust. -/
theorem exhaust_of_rest_nil
    {window : Window}
    (empty : window.rest = []) :
    window.exhaust = window := by
  simp [exhaust, remaining, empty]

/-! ## Reads as choices on the number of unread octets -/

theorem take_eq :
    window.take count =
      if count ≤ window.remaining then
        .ok (window.rest.take count, window.advance count)
      else
        .error ⟨count, window.remaining⟩ := by
  have front : (window.rest.take count).length = count ↔ count ≤ window.remaining := by
    simp only [List.length_take, remaining]
    omega
  simp only [take, front]

theorem number_eq
    (width : Nat) :
    window.number width =
      if width ≤ window.remaining then
        .ok (bigEndian (window.rest.take width), window.advance width)
      else
        .error ⟨width, window.remaining⟩ := by
  rw [number, take_eq]
  split <;> rfl

theorem inner_eq :
    window.inner count =
      if count ≤ window.remaining then
        .ok (ofOctets (window.rest.take count) window.position, window.advance count)
      else
        .error ⟨count, window.remaining⟩ := by
  rw [inner, take_eq]
  split <;> rfl

/-- An octet in front is read, and the window stands behind it. -/
theorem octet_of_cons
    {window : Window}
    {first : UInt8}
    {others : List UInt8}
    (shape : window.rest = first :: others) :
    window.octet = .ok (first, window.advance 1) := by
  simp [octet, shape, advance]

/-- Without octets there is nothing to read. -/
theorem octet_of_nil
    {window : Window}
    (empty : window.rest = []) :
    window.octet = .error ⟨1, 0⟩ := by
  simp [octet, empty]

/-- An inner window is a front of as many octets as it was asked for. -/
theorem inner_eq_ok_iff
    {window body after : Window}
    {count : Nat} :
    window.inner count = .ok (body, after) ↔
      ∃ value,
        value.length = count ∧
          window.rest = value ++ after.rest ∧
          body = ofOctets value window.position ∧
          after = window.advance count := by
  rw [inner_eq]
  constructor
  · intro cut
    split at cut
    · rename_i fits
      obtain ⟨rfl, rfl⟩ : _ ∧ _ := by
        simpa using cut
      refine ⟨window.rest.take count, ?_, by simp, rfl, rfl⟩
      exact List.length_take_of_le fits
    · cases cut
  · rintro ⟨value, rfl, shape, rfl, rfl⟩
    have fits : value.length ≤ window.remaining := by
      simp only [remaining, shape, List.length_append]
      omega
    have front : window.rest.take value.length = value := by
      rw [shape, List.take_left]
    rw [if_pos fits, front]

/-- An inner window behind a length of `width` octets. -/
theorem sizedInner_eq_ok_iff
    {window body after : Window}
    {width : Nat} :
    (window.number width).bind (fun (length, behind) => behind.inner length) =
        .ok (body, after) ↔
      ∃ value,
        value.length < 256 ^ width ∧
          window.rest = bigEndianOctets width value.length ++ value ++ after.rest ∧
          body = ofOctets value (window.position + width) ∧
          after = window.advance (width + value.length) := by
  rw [number_eq]
  constructor
  · intro cut
    split at cut
    · rename_i fits
      obtain ⟨value, length, shape, rfl, rfl⟩ := inner_eq_ok_iff.mp cut
      have width_eq : (window.rest.take width).length = width :=
        List.length_take_of_le fits
      have small := bigEndian_lt (window.rest.take width)
      rw [width_eq] at small
      have written := bigEndianOctets_bigEndian (window.rest.take width)
      rw [width_eq] at written
      rw [← length] at small written shape ⊢
      refine ⟨value, small, ?_, by simp, by rw [advance_advance]⟩
      rw [written, List.append_assoc, ← shape, advance_rest, List.take_append_drop]
    · cases cut
  · rintro ⟨value, small, shape, rfl, rfl⟩
    have fits : width ≤ window.remaining := by
      simp only [remaining, shape, List.length_append, bigEndianOctets_length]
      omega
    have front : window.rest.take width = bigEndianOctets width value.length := by
      rw [shape, List.append_assoc]
      exact List.take_left' (by simp)
    rw [if_pos fits]
    refine inner_eq_ok_iff.mpr ⟨value, ?_, ?_, by simp, ?_⟩
    · rw [front, bigEndian_bigEndianOctets small]
    · have behind := (List.take_append_drop width window.rest).trans shape
      rw [front, List.append_assoc] at behind
      exact List.append_cancel_left behind
    · rw [front, bigEndian_bigEndianOctets small, advance_advance]

end Window

end LteNas
