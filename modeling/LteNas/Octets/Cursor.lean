import LteNas.Octets.Window

namespace LteNas

/-!
# Cursor sessions

A session is a run of cursor operations over one buffer.  Entering an inner
window pushes it on a stack, leaving returns to the window around it, which
stands behind the octets that the inner one covers.
-/

/-- One operation of a session. -/
inductive CursorOperation where
  | peek
  | peekAt (offset : Nat)
  | octet
  | number (width : Nat)
  | octets (count : Nat)
  | skip (count : Nat)
  | rest
  | peekRest
  | enter (count : Nat)
  | leave
  deriving Repr, DecidableEq

/-- What an operation hands back. -/
inductive CursorAnswer where
  | nothing
  | number (value : Nat)
  | octets (value : List UInt8)
  | shortage (shortage : Shortage)
  deriving Repr, DecidableEq

/-- A window together with all octets that it covers, read ones included. -/
structure CursorFrame where
  octets : List UInt8
  window : Window
  deriving Repr, DecidableEq

/-- The frame of a fresh window. -/
def CursorFrame.ofOctets (octets : List UInt8) (base : Nat) : CursorFrame :=
  ⟨octets, .ofOctets octets base⟩

/-- The innermost frame and the frames around it, nearest first. -/
structure CursorSession where
  top : CursorFrame
  outer : List CursorFrame
  deriving Repr, DecidableEq

namespace CursorSession

/-- A session over a buffer. -/
def ofOctets (octets : List UInt8) (base : Nat) : CursorSession :=
  ⟨.ofOctets octets base, []⟩

/-- Replace the window of the innermost frame. -/
def withWindow (session : CursorSession) (window : Window) : CursorSession :=
  { session with top := { session.top with window } }

/-- Keep the outcome of a read: its answer and the moved window, or the shortage. -/
def settle
    (session : CursorSession)
    (answer : α → CursorAnswer)
    (outcome : Except Shortage (α × Window)) :
    CursorAnswer × CursorSession :=
  match outcome with
  | .ok (value, after) =>
      (answer value, session.withWindow after)
  | .error shortage =>
      (.shortage shortage, session)

/-- Run one operation. -/
def step
    (session : CursorSession) :
    CursorOperation → CursorAnswer × CursorSession
  | .peek =>
      (ofPeeked session.top.window.peek?, session)
  | .peekAt offset =>
      (ofPeeked (session.top.window.peekAt? offset), session)
  | .octet =>
      session.settle (fun octet => .number octet.toNat) session.top.window.octet
  | .number width =>
      session.settle .number (session.top.window.number width)
  | .octets count =>
      session.settle .octets (session.top.window.take count)
  | .skip count =>
      session.settle (fun _ => .nothing) (session.top.window.take count)
  | .rest =>
      (.octets session.top.window.rest,
        session.withWindow session.top.window.exhaust)
  | .peekRest =>
      (.octets session.top.window.rest, session)
  | .enter count =>
      match session.top.window.inner count with
      | .ok (inner, after) =>
          (.nothing,
            ⟨⟨inner.rest, inner⟩, (session.withWindow after).top :: session.outer⟩)
      | .error shortage =>
          (.shortage shortage, session)
  | .leave =>
      match session.outer with
      | [] =>
          (.nothing, session)
      | frame :: outer =>
          (.nothing, ⟨frame, outer⟩)
where
  /-- A peeked octet is a number; past the end there is nothing. -/
  ofPeeked : Option UInt8 → CursorAnswer
    | some octet => .number octet.toNat
    | none => .nothing

/-- Run operations in order, each answer with the session after it. -/
def run
    (session : CursorSession) :
    List CursorOperation → List (CursorAnswer × CursorSession)
  | [] =>
      []
  | operation :: operations =>
      let outcome := session.step operation
      outcome :: run outcome.2 operations

end CursorSession

end LteNas
