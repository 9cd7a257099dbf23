import LteNas.Proofs.Decode.Opening
import LteNas.Proofs.Message.Depth

namespace LteNas

/-!
# Levels of nesting

A message at a depth is decoded in the scope of that depth, which hands the
messages inside it to the scope one level deeper as long as the limit allows it.
So every message inside a decoded one is again a message decoded at a depth.
-/

namespace Setup

/-- The message in a window, at a depth. -/
def decodeAt
    (setup : Setup)
    (depth : Nat)
    (carriage : Carriage)
    (window : Window) :
    Message :=
  ((setup.scope depth).decodeCarried window carriage).1

/-- A message inside one at a depth is decoded a level deeper, below the limit only. -/
theorem scope_nested
    (setup : Setup)
    (depth : Nat)
    (carriage : Carriage)
    (window : Window) :
    (setup.scope depth).nested carriage window =
      if depth < setup.config.maxNestingDepth then
        some ((setup.scope (depth + 1)).decodeCarried window carriage)
      else
        none := by
  show setup.decodeNested (setup.config.maxNestingDepth - depth) depth carriage window = _
  split
  · rename_i below
    obtain ⟨levels, levels_eq⟩ : ∃ levels, setup.config.maxNestingDepth - depth = levels + 1 :=
      ⟨setup.config.maxNestingDepth - depth - 1, by omega⟩
    have deeper : setup.config.maxNestingDepth - (depth + 1) = levels := by
      omega
    rw [levels_eq, decodeNested, scope, deeper]
  · rename_i reached
    rw [Nat.sub_eq_zero_of_le (Nat.not_lt.mp reached)]
    rfl

/-- A message at a depth comes to the same opening under every limit. -/
theorem decodeAt_opens
    (setup : Setup)
    (carriage : Carriage)
    (window : Window) :
    ∃ (opening : Opening) (isPartial : Bool),
      opening.Fits 2 (setup.readable carriage window) ∧
        ∀ limit depth,
          (setup.withLimit limit).decodeAt depth carriage window =
            opening.finish
              { (setup.withLimit limit).scope depth with partiallyCiphered := isPartial } := by
  obtain ⟨opening, isPartial, fits, decode_eq⟩ := setup.decodeCarried_opens carriage window
  exact ⟨opening, isPartial, fits, fun limit depth => decode_eq limit _ depth⟩

end Setup

/-- The outermost message has its own header, and stands at depth zero. -/
theorem decode_eq_decodeAt
    (octets : List UInt8)
    (direction : Direction)
    (config : Config) :
    decode octets direction config =
      (Setup.ofConfig config direction).decodeAt 0 .complete (.ofOctets octets 0) :=
  rfl

end LteNas
