import LteNas.Proofs.Decode.Moving

namespace LteNas

/-!
# Where decoded messages lie

Decoding the same octets at the same place is the case of a displacement that
moves nothing, so every step of the decoder keeps what it finds inside its
window.  The window of a whole message is all of its octets.
-/

/-- Decoding in the same setup agrees with itself wherever the octets stand. -/
theorem Setup.aligned_self
    (setup : Setup)
    (octets : Nat) :
    setup.Aligned ⟨octets, 0⟩ setup where
  key_eq := rfl
  direction_eq := rfl
  config_eq := rfl

/-- Whatever is found in a window lies in it. -/
theorem Setup.decodeMessage_within
    (setup : Setup)
    (depth : Nat)
    (window : Window) :
    ((setup.scope depth).decodeMessage window).1.Within window.remainingSpan := by
  have aligned : (setup.scope depth).Aligned ⟨0, 0⟩ (setup.scope depth) :=
    (setup.aligned_self 0).scope depth
  have unmoved : window.Moved ⟨0, 0⟩ window :=
    ⟨rfl, rfl⟩
  exact (Scope.decodeMessage_agree aligned unmoved window.remainingSpan_within_self).within

/--
Every range of a decoded message and of the messages inside it is well formed and
among its octets; what an element carries lies in the range of that element.
-/
theorem decode_wellPlaced
    (octets : List UInt8)
    (direction : Direction)
    (config : Config) :
    (decode octets direction config).WellPlaced octets.length := by
  have window_eq :
      (Window.ofOctets octets 0).remainingSpan = ⟨0, octets.length⟩ := by
    simp [Window.remainingSpan, Window.stop, Window.remaining]
  have within :=
    (Setup.ofConfig config direction).decodeMessage_within 0 (Window.ofOctets octets 0)
  rw [window_eq] at within
  exact within.wellPlaced

end LteNas
