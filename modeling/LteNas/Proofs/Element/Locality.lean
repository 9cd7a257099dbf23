import LteNas.Element.Reader
import LteNas.Proofs.Element.Visit
import LteNas.Proofs.Message.Displacement

namespace LteNas

/-!
# Readers that do not look around

A reader is local when it sees nothing but the octets in front of it: on the
same octets further on it finds the same fault, or reads the same value, and
whatever ranges it reports lie among the octets that it was given.  Locality is
a relation between two runs, so that it passes through binds in which windows
are kept for later.
-/

/-! ## Windows further on -/

/-- The same octets further on. -/
def Window.displace
    (move : Displacement)
    (window : Window) :
    Window :=
  { window with base := window.base + move.octets }

/-- The far window stands further on, in front of the same octets. -/
structure Window.Moved
    (move : Displacement)
    (near far : Window) :
    Prop where
  position_eq : far.position = near.position + move.octets
  rest_eq : far.rest = near.rest

namespace Window.Moved

variable {move : Displacement} {near far : Window}

theorem remaining_eq
    (moved : near.Moved move far) :
    far.remaining = near.remaining := by
  rw [Window.remaining, moved.rest_eq, Window.remaining]

theorem remainingSpan_eq
    (moved : near.Moved move far) :
    far.remainingSpan = near.remainingSpan.displace move := by
  simp only [Window.remainingSpan, Window.stop, Span.displace, moved.position_eq,
    moved.remaining_eq, Span.mk.injEq, true_and]
  omega

theorem advance
    (moved : near.Moved move far)
    (count : Nat) :
    (near.advance count).Moved move (far.advance count) where
  position_eq := by
    rw [Window.advance_position, Window.advance_position, moved.position_eq]
    omega
  rest_eq := by
    rw [Window.advance_rest, Window.advance_rest, moved.rest_eq]

end Window.Moved

theorem Window.moved_displace
    (window : Window)
    (move : Displacement) :
    window.Moved move (window.displace move) where
  position_eq := Nat.add_right_comm _ _ _
  rest_eq := rfl

/-- Octets that stand further on are a window that was displaced. -/
theorem Window.ofOctets_displaced
    (octets : List UInt8)
    (start : Nat)
    (move : Displacement) :
    ofOctets octets (start + move.octets) = (ofOctets octets start).displace move :=
  rfl

/-! ## Sites -/

/-- The octets of a value, and how far off the same octets are read again. -/
structure Site where
  span : Span
  move : Displacement

/-- The near window stands among the octets of the site, the far one as far off as the site says. -/
structure Site.Sees
    (site : Site)
    (near far : Window) :
    Prop where
  start_le : site.span.start ≤ near.position
  stop_le : near.stop ≤ site.span.stop
  far_eq : far = near.displace site.move

namespace Site.Sees

variable {site : Site} {near far : Window}

theorem moved
    (sees : site.Sees near far) :
    near.Moved site.move far := by
  rw [sees.far_eq]
  exact near.moved_displace site.move

theorem remainingSpan_within
    (sees : site.Sees near far) :
    near.remainingSpan.Within site.span where
  start_le := sees.start_le
  ordered := near.position_le_stop
  stop_le := sees.stop_le

theorem advance
    {count : Nat}
    (sees : site.Sees near far)
    (fits : count ≤ near.remaining) :
    site.Sees (near.advance count) (far.advance count) where
  start_le := by
    rw [Window.advance_position]
    exact Nat.le_add_right_of_le sees.start_le
  stop_le := by
    rw [Window.advance_stop fits]
    exact sees.stop_le
  far_eq := by
    rw [sees.far_eq]
    rfl

theorem exhaust
    (sees : site.Sees near far) :
    site.Sees near.exhaust far.exhaust := by
  rw [Window.exhaust, Window.exhaust, sees.moved.remaining_eq]
  exact sees.advance (Nat.le_refl _)

theorem front
    {count : Nat}
    (sees : site.Sees near far)
    (fits : count ≤ near.remaining) :
    site.Sees
      (.ofOctets (near.rest.take count) near.position)
      (.ofOctets (far.rest.take count) far.position) where
  start_le := sees.start_le
  stop_le := by
    have stop_le := sees.stop_le
    have length : (near.rest.take count).length = count :=
      List.length_take_of_le fits
    simp only [Window.stop, Window.remaining, Window.ofOctets_position,
      Window.ofOctets_rest] at stop_le fits ⊢
    omega
  far_eq := by
    rw [sees.moved.rest_eq, sees.moved.position_eq]
    rfl

end Site.Sees

namespace Site

/-- Two outcomes of a read agree: the same fault, or related values in front of windows seen alike. -/
inductive Agree
    {α β : Type}
    (site : Site)
    (related : α → β → Prop) :
    Except Fault (α × Window) → Except Fault (β × Window) → Prop where
  | error {fault : Fault} :
      Agree site related (.error fault) (.error fault)
  | ok {value : α} {other : β} {near far : Window}
      (values : related value other)
      (sees : site.Sees near far) :
      Agree site related (.ok (value, near)) (.ok (other, far))

end Site

namespace Reader

variable {α β γ δ : Type} {site : Site}

/-- Two readers agree wherever the site sees two windows. -/
def Local
    (site : Site)
    (related : α → β → Prop)
    (first : Reader α)
    (second : Reader β) :
    Prop :=
  ∀ near far, site.Sees near far → site.Agree related (first near) (second far)

/-- A reader agrees with itself, and all its values have a property. -/
def Steady
    (site : Site)
    (good : α → Prop)
    (reader : Reader α) :
    Prop :=
  reader.Local site (fun value other => value = other ∧ good value) reader

namespace Local

variable {related : α → β → Prop} {first : Reader α} {second : Reader β}

protected theorem pure
    {value : α}
    {other : β}
    (values : related value other) :
    Local site related (Pure.pure value) (Pure.pure other) :=
  fun _ _ sees => .ok values sees

/-- What is read behind local readers may depend on what they read. -/
protected theorem bind
    {behind : γ → δ → Prop}
    {next : α → Reader γ}
    {otherNext : β → Reader δ}
    (front : first.Local site related second)
    (back : ∀ value other, related value other →
      (next value).Local site behind (otherNext other)) :
    Local site behind (first >>= next) (second >>= otherNext) := by
  intro near far sees
  have agree := front near far sees
  change site.Agree behind
    (Except.bind (first near) fun (value, after) => next value after)
    (Except.bind (second far) fun (value, after) => otherNext value after)
  generalize first near = nearOutcome, second far = farOutcome at agree
  cases agree with
  | error =>
      exact .error
  | ok values sees =>
      exact back _ _ values _ _ sees

end Local

namespace Steady

variable {good : α → Prop} {reader : Reader α}

protected theorem bind
    {behind : γ → δ → Prop}
    {next : α → Reader γ}
    {otherNext : α → Reader δ}
    (front : reader.Steady site good)
    (back : ∀ value, good value → (next value).Local site behind (otherNext value)) :
    Local site behind (reader >>= next) (reader >>= otherNext) := by
  apply Local.bind front
  rintro value _ ⟨rfl, holds⟩
  exact back value holds

/-- A weaker property of the values of a reader. -/
theorem mono
    {weaker : α → Prop}
    (steady : reader.Steady site good)
    (weaken : ∀ value, good value → weaker value) :
    reader.Steady site weaker := by
  intro near far sees
  have agree := steady near far sees
  generalize reader near = nearOutcome, reader far = farOutcome at agree ⊢
  cases agree with
  | error =>
      exact .error
  | ok values sees =>
      exact .ok ⟨values.1, weaken _ values.2⟩ sees

end Steady

/-- Any value will do. -/
abbrev Anything : α → Prop :=
  fun _ => True

/-! ## Single reads -/

theorem fail_local
    {related : α → β → Prop}
    (fault : Fault) :
    Local site related (fail fault) (fail fault) :=
  fun _ _ _ => .error

theorem here_local :
    Local site site.Sees here here :=
  fun _ _ sees => .ok sees sees

theorem octet_steady :
    octet.Steady site Anything := by
  intro near far sees
  simp only [octet, ofRead]
  cases shape : near.rest with
  | nil =>
      rw [Window.octet_of_nil shape, Window.octet_of_nil (sees.moved.rest_eq.trans shape)]
      exact .error
  | cons first others =>
      rw [Window.octet_of_cons shape, Window.octet_of_cons (sees.moved.rest_eq.trans shape)]
      refine .ok ⟨rfl, trivial⟩ (sees.advance ?_)
      simp [Window.remaining, shape]

theorem number_steady
    (width : Nat) :
    (number width).Steady site Anything := by
  intro near far sees
  simp only [number, ofRead, Window.number_eq, sees.moved.remaining_eq]
  split
  · rename_i fits
    rw [sees.moved.rest_eq]
    exact .ok ⟨rfl, trivial⟩ (sees.advance fits)
  · exact .error

theorem octets_steady
    (count : Nat) :
    (octets count).Steady site Anything := by
  intro near far sees
  simp only [octets, ofRead, Window.take_eq, sees.moved.remaining_eq]
  split
  · rename_i fits
    rw [sees.moved.rest_eq]
    exact .ok ⟨rfl, trivial⟩ (sees.advance fits)
  · exact .error

theorem inner_local
    (count : Nat) :
    Local site site.Sees (inner count) (inner count) := by
  intro near far sees
  simp only [inner, ofRead, Window.inner_eq, sees.moved.remaining_eq]
  split
  · rename_i fits
    exact .ok (sees.front fits) (sees.advance fits)
  · exact .error

theorem rest_steady :
    rest.Steady site Anything := by
  intro near far sees
  simp only [rest, sees.moved.rest_eq]
  exact .ok ⟨rfl, trivial⟩ sees.exhaust

theorem hasMore_steady :
    hasMore.Steady site Anything := by
  intro near far sees
  simp only [hasMore, Window.isEmpty, sees.moved.rest_eq]
  exact .ok ⟨rfl, trivial⟩ sees

theorem remaining_steady :
    remaining.Steady site Anything := by
  intro near far sees
  simp only [remaining, sees.moved.remaining_eq]
  exact .ok ⟨rfl, trivial⟩ sees

theorem blaming_steady
    {reader : Reader α}
    {good : α → Prop}
    (steady : reader.Steady site good)
    (fault : Fault) :
    (reader.blaming fault).Steady site good := by
  intro near far sees
  have agree := steady near far sees
  simp only [blaming]
  generalize reader near = nearOutcome, reader far = farOutcome at agree ⊢
  cases agree with
  | error =>
      exact .error
  | ok values sees =>
      exact .ok values sees

theorem vector_steady
    (count : Nat) :
    (vector count).Steady site Anything :=
  (octets_steady count).bind fun _ _ => .pure ⟨rfl, trivial⟩

theorem expectExactly_steady
    (length : Nat) :
    (expectExactly length).Steady site Anything := by
  apply remaining_steady.bind
  intro actual _
  split
  · exact fail_local _
  · exact .pure ⟨rfl, trivial⟩

theorem expectAtLeast_steady
    (length : Nat) :
    (expectAtLeast length).Steady site Anything := by
  apply remaining_steady.bind
  intro actual _
  split
  · exact fail_local _
  · exact .pure ⟨rfl, trivial⟩

theorem soleOctet_steady :
    soleOctet.Steady site Anything :=
  (expectExactly_steady 1).bind fun _ _ => octet_steady

theorem soleNumber_steady
    (width : Nat) :
    (soleNumber width).Steady site Anything :=
  (expectExactly_steady width).bind fun _ _ => number_steady width

theorem ifMore_steady
    {reader : Reader α}
    {good : α → Prop}
    (steady : reader.Steady site good) :
    (ifMore reader).Steady site (fun value => ∀ part ∈ value, good part) := by
  apply hasMore_steady.bind
  intro more _
  split
  · exact steady.bind fun value holds => .pure ⟨rfl, by simpa using holds⟩
  · exact .pure ⟨rfl, by simp⟩

theorem times_steady
    {reader : Reader α}
    {good : α → Prop}
    (steady : reader.Steady site good)
    (count : Nat) :
    (times reader count).Steady site (fun values => ∀ value ∈ values, good value) := by
  induction count with
  | zero =>
      exact .pure ⟨rfl, by simp⟩
  | succ count inductionHypothesis =>
      apply steady.bind
      intro first firstHolds
      apply inductionHypothesis.bind
      intro others othersHold
      exact .pure ⟨rfl, List.forall_mem_cons.mpr ⟨firstHolds, othersHold⟩⟩

end Reader

end LteNas
