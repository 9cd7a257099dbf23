namespace LteNas

/-!
# Windows over octets

A window is a forward-only cursor over a run of octets.  It knows the absolute
offset of its first octet, so that a value read deep inside a message can be
mapped back onto the capture.  A read either succeeds and moves by exactly the
octets that it returns, or reports a shortage and moves nothing.
-/

/-- A half-open range of absolute octet offsets. -/
structure Span where
  start : Nat
  stop : Nat
  deriving Repr, DecidableEq

/-- A read asked for more octets than were left. -/
structure Shortage where
  expected : Nat
  actual : Nat
  deriving Repr, DecidableEq

def Shortage.message (shortage : Shortage) : String :=
  s!"Buffer too short: expected at least {shortage.expected} bytes, got {shortage.actual}"

/-- A cursor that has passed `index` octets and still holds `rest`. -/
structure Window where
  base : Nat
  index : Nat
  rest : List UInt8
  deriving Repr, DecidableEq

/-- The big-endian number that octets spell. -/
def bigEndian (octets : List UInt8) : Nat :=
  octets.foldl (fun number octet => number * 256 + octet.toNat) 0

/-- The low `width` octets of a number, most significant first. -/
def bigEndianOctets : Nat → Nat → List UInt8
  | 0, _ => []
  | width + 1, number =>
      bigEndianOctets width (number / 256) ++ [UInt8.ofNat (number % 256)]

namespace Window

/-- A fresh window whose first octet stands at absolute offset `base`. -/
def ofOctets (octets : List UInt8) (base : Nat) : Window :=
  ⟨base, 0, octets⟩

/-- The absolute offset of the next unread octet. -/
def position (window : Window) : Nat :=
  window.base + window.index

/-- The number of unread octets. -/
def remaining (window : Window) : Nat :=
  window.rest.length

/-- The absolute offset just past the last octet. -/
def stop (window : Window) : Nat :=
  window.position + window.remaining

/-- The number of octets of the whole window, read and unread. -/
def length (window : Window) : Nat :=
  window.index + window.remaining

/-- The absolute range of the unread octets. -/
def remainingSpan (window : Window) : Span :=
  ⟨window.position, window.stop⟩

/-- The absolute range from an earlier offset to the end of the window. -/
def spanFrom (window : Window) (start : Nat) : Span :=
  ⟨start, window.stop⟩

def isEmpty (window : Window) : Bool :=
  window.rest.isEmpty

/-- The next unread octet. -/
def peek? (window : Window) : Option UInt8 :=
  window.rest.head?

/-- The unread octet `offset` places after the next one. -/
def peekAt? (window : Window) (offset : Nat) : Option UInt8 :=
  window.rest[offset]?

/-- The window after `count` further octets. -/
def advance (window : Window) (count : Nat) : Window :=
  { window with
    index := window.index + count
    rest := window.rest.drop count }

/-- The window with every octet read. -/
def exhaust (window : Window) : Window :=
  window.advance window.remaining

/-- Read exactly `count` octets. -/
def take
    (window : Window)
    (count : Nat) :
    Except Shortage (List UInt8 × Window) :=
  let front := window.rest.take count
  -- comparing the front keeps a read linear in what it returns
  if front.length = count then
    .ok (front, window.advance count)
  else
    .error ⟨count, window.remaining⟩

def octet (window : Window) : Except Shortage (UInt8 × Window) :=
  match window.rest with
  | [] =>
      .error ⟨1, 0⟩
  | octet :: rest =>
      .ok (octet, { window with index := window.index + 1, rest })

/-- Read a big-endian number of `width` octets. -/
def number
    (window : Window)
    (width : Nat) :
    Except Shortage (Nat × Window) :=
  (window.take width).map fun (octets, after) => (bigEndian octets, after)

/-- Split off the next `count` octets as a window of their own. -/
def inner
    (window : Window)
    (count : Nat) :
    Except Shortage (Window × Window) :=
  (window.take count).map fun (octets, after) =>
    (ofOctets octets window.position, after)

end Window

end LteNas
