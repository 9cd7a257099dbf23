import LteNas.Octets.Cursor
import LteNas.Proofs.Message.Placement
import LteNas.Proofs.Octets.Window
import Mathlib.Data.List.Chain

namespace LteNas

/-!
# Rules of the cursor

What a cursor operation does is told here by rules: when it succeeds, which
octets of the buffer it hands over, and how the windows of the session stand
afterwards.  Every operation follows the rules as long as the windows show the
buffer and each of them covers what the cursor around it has just passed, and it
leaves them so.
-/

/-! ## Octets of a buffer -/

/-- Octets are those of a buffer that starts at `base`, at the offsets from `start` on. -/
structure StandAt (buffer : List UInt8) (base start : Nat) (octets : List UInt8) : Prop where
  base_le : base ≤ start
  stop_le : start + octets.length ≤ base + buffer.length
  octet_eq : ∀ place < octets.length, octets[place]? = buffer[start + place - base]?

/-- Octets spell a number, the octet of the highest weight first. -/
structure SpellBigEndian (octets : List UInt8) (number : Nat) : Prop where
  number_lt : number < 256 ^ octets.length
  octet_eq : ∀ place < octets.length,
    octets[place]? = some (UInt8.ofNat (number / 256 ^ (octets.length - 1 - place)))

/-- A buffer holds itself. -/
theorem StandAt.refl
    (buffer : List UInt8)
    (base : Nat) :
    StandAt buffer base base buffer where
  base_le := Nat.le_refl base
  stop_le := Nat.le_refl _
  octet_eq place _ := by
    rw [Nat.add_sub_cancel_left]

/-- A part of octets stands as far behind them as there are octets in front of it. -/
theorem StandAt.part
    {buffer octets : List UInt8}
    {base start skipped count : Nat}
    (stand : StandAt buffer base start octets)
    (fits : skipped + count ≤ octets.length) :
    StandAt buffer base (start + skipped) ((octets.drop skipped).take count) := by
  obtain ⟨base_le, stop_le, octet_eq⟩ := stand
  have length_eq : ((octets.drop skipped).take count).length = count := by
    rw [List.length_take, List.length_drop]
    omega
  refine ⟨Nat.le_add_right_of_le base_le, by omega, fun place inside => ?_⟩
  rw [length_eq] at inside
  rw [List.getElem?_take_of_lt inside, List.getElem?_drop, octet_eq _ (by omega), Nat.add_assoc]

theorem bigEndian_spells
    (octets : List UInt8) :
    SpellBigEndian octets (bigEndian octets) where
  number_lt := bigEndian_lt octets
  octet_eq place inside := by
    rw [← bigEndianOctets_getElem? inside, bigEndianOctets_bigEndian]

/-- The read of an octet, too, is decided by the number of unread ones. -/
theorem Window.octet_eq
    (window : Window) :
    window.octet =
      if 1 ≤ window.remaining then
        .ok (window.rest.headD 0, window.advance 1)
      else
        .error ⟨1, window.remaining⟩ := by
  cases shape : window.rest with
  | nil =>
      rw [octet_of_nil shape, remaining, shape]
      rfl
  | cons first others =>
      rw [octet_of_cons shape, remaining, shape]
      exact (if_pos (Nat.le_add_left 1 others.length)).symm

theorem Window.take_one
    {window : Window}
    (fits : 1 ≤ window.remaining) :
    window.rest.take 1 = [window.rest.headD 0] := by
  obtain ⟨first, others, shape⟩ := List.exists_cons_of_length_pos fits
  rw [shape]
  rfl

/-! ## Windows over a buffer -/

namespace CursorFrame

/-- The absolute range of the octets of a window, read and unread. -/
def span (frame : CursorFrame) : Span :=
  ⟨frame.window.base, frame.window.stop⟩

/-- The frame with its cursor moved on. -/
def moved (frame : CursorFrame) (count : Nat) : CursorFrame :=
  { frame with window := frame.window.advance count }

/-- The window shows octets of a buffer, and its cursor stands among them. -/
structure Shows (buffer : List UInt8) (base : Nat) (frame : CursorFrame) : Prop where
  stand : StandAt buffer base frame.window.base frame.octets
  index_le : frame.window.index ≤ frame.octets.length
  rest_eq : frame.window.rest = frame.octets.drop frame.window.index

/-- The window covers octets that the cursor of the window around it has just passed. -/
structure Fills (inner outer : CursorFrame) : Prop where
  start_le : outer.window.base ≤ inner.window.base
  stop_eq : inner.window.stop = outer.window.position

/-- The window is the same one later on, and its cursor has not moved back. -/
structure Advances (earlier later : CursorFrame) : Prop where
  octets_eq : later.octets = earlier.octets
  base_eq : later.window.base = earlier.window.base
  index_le : earlier.window.index ≤ later.window.index

protected theorem Advances.refl
    (frame : CursorFrame) :
    frame.Advances frame :=
  ⟨rfl, rfl, Nat.le_refl _⟩

protected theorem Advances.trans
    {first second third : CursorFrame}
    (front : first.Advances second)
    (back : second.Advances third) :
    first.Advances third where
  octets_eq := back.octets_eq.trans front.octets_eq
  base_eq := back.base_eq.trans front.base_eq
  index_le := Nat.le_trans front.index_le back.index_le

theorem advances_moved
    (frame : CursorFrame)
    (count : Nat) :
    frame.Advances (frame.moved count) :=
  ⟨rfl, rfl, Nat.le_add_right _ _⟩

namespace Shows

variable {buffer : List UInt8} {base offset count : Nat} {frame : CursorFrame}

/-- A window over the buffer itself. -/
theorem ofOctets
    {octets : List UInt8}
    {start : Nat}
    (stand : StandAt buffer base start octets) :
    (CursorFrame.ofOctets octets start).Shows buffer base :=
  ⟨stand, Nat.zero_le _, rfl⟩

theorem length_eq
    (shown : frame.Shows buffer base) :
    frame.octets.length = frame.window.index + frame.window.remaining := by
  rw [Window.remaining, shown.rest_eq, List.length_drop, Nat.add_sub_cancel' shown.index_le]

theorem stop_eq
    (shown : frame.Shows buffer base) :
    frame.window.stop = frame.window.base + frame.octets.length := by
  rw [shown.length_eq, Window.stop, Window.position, Nat.add_assoc]

/-- Unread octets stand where the cursor says. -/
theorem unread
    (shown : frame.Shows buffer base)
    (fits : offset + count ≤ frame.window.remaining) :
    StandAt buffer base (frame.window.position + offset)
      ((frame.window.rest.drop offset).take count) := by
  have inside : frame.window.index + offset + count ≤ frame.octets.length := by
    rw [shown.length_eq]
    omega
  rw [shown.rest_eq, List.drop_drop, Window.position, Nat.add_assoc]
  exact shown.stand.part inside

/-- The octets that a read takes off the front. -/
theorem front
    (shown : frame.Shows buffer base)
    (fits : count ≤ frame.window.remaining) :
    StandAt buffer base frame.window.position (frame.window.rest.take count) := by
  have inside : 0 + count ≤ frame.window.remaining := by
    rwa [Nat.zero_add]
  exact shown.unread inside

theorem moved
    (shown : frame.Shows buffer base)
    (fits : count ≤ frame.window.remaining) :
    (frame.moved count).Shows buffer base := by
  refine ⟨shown.stand, ?_, ?_⟩
  · rw [CursorFrame.moved, shown.length_eq]
    exact Nat.add_le_add_left fits _
  · rw [CursorFrame.moved, Window.advance, shown.rest_eq, List.drop_drop]

end Shows

/-- A window still fills the same octets when its own cursor has moved. -/
theorem Fills.moved
    {inner outer : CursorFrame}
    {count : Nat}
    (fills : inner.Fills outer)
    (fits : count ≤ inner.window.remaining) :
    (inner.moved count).Fills outer where
  start_le := fills.start_le
  stop_eq := (Window.advance_stop fits).trans fills.stop_eq

/-- The octets that a cursor moves over are filled by a window of their own. -/
theorem fills_moved
    (octets : List UInt8)
    (frame : CursorFrame) :
    (CursorFrame.ofOctets octets frame.window.position).Fills (frame.moved octets.length) where
  start_le := Nat.le_add_right _ _
  stop_eq := by
    rw [CursorFrame.moved, Window.advance_position]
    rfl

theorem span_ordered
    (frame : CursorFrame) :
    frame.span.start ≤ frame.span.stop := by
  simp only [span, Window.stop, Window.position, Nat.add_assoc]
  exact Nat.le_add_right _ _

/-- A window that fills octets in front of a cursor lies inside the window of that cursor. -/
theorem Fills.span_within
    {inner outer : CursorFrame}
    (fills : inner.Fills outer) :
    inner.span.Within outer.span where
  start_le := fills.start_le
  ordered := inner.span_ordered
  stop_le := by
    rw [span, fills.stop_eq]
    exact Nat.le_add_right _ _

/-- A window that is the same one later on covers the same range. -/
theorem Advances.span_eq
    {buffer : List UInt8}
    {base : Nat}
    {earlier later : CursorFrame}
    (advances : earlier.Advances later)
    (shown : earlier.Shows buffer base)
    (laterShown : later.Shows buffer base) :
    later.span = earlier.span := by
  rw [span, span, shown.stop_eq, laterShown.stop_eq, advances.base_eq, advances.octets_eq]

end CursorFrame

/-! ## The rules -/

namespace CursorOperation

/-- The number of octets that an operation asks for. -/
def demand? : CursorOperation → Option Nat
  | .octet => some 1
  | .number width => some width
  | .octets count => some count
  | .skip count => some count
  | .enter count => some count
  | _ => none

/-- The place of the unread octet that an operation looks at. -/
def place? : CursorOperation → Option Nat
  | .peek => some 0
  | .peekAt offset => some offset
  | _ => none

/-- What a read answers that was served octets. -/
inductive Tells : CursorOperation → List UInt8 → CursorAnswer → Prop where
  | octet (octet : UInt8) :
      Tells .octet [octet] (.number octet.toNat)
  | number {octets : List UInt8} {value : Nat}
      (spells : SpellBigEndian octets value) :
      Tells (.number octets.length) octets (.number value)
  | octets (octets : List UInt8) :
      Tells (.octets octets.length) octets (.octets octets)
  | skip (octets : List UInt8) :
      Tells (.skip octets.length) octets .nothing

end CursorOperation

namespace CursorSession

/-- The windows of a session, the innermost first. -/
def frames (session : CursorSession) : List CursorFrame :=
  session.top :: session.outer

/-- The session with the innermost cursor moved on. -/
def moved (session : CursorSession) (count : Nat) : CursorSession :=
  { session with top := session.top.moved count }

/-- The innermost window is a new one, over octets in front of the cursor that was moved. -/
def entered (session : CursorSession) (octets : List UInt8) : CursorSession :=
  ⟨.ofOctets octets session.top.window.position,
    (session.top.moved octets.length) :: session.outer⟩

/-- All windows show the buffer, and each of them fills octets in front of the next cursor. -/
structure IsOver (buffer : List UInt8) (base : Nat) (session : CursorSession) : Prop where
  shows : ∀ frame ∈ session.frames, frame.Shows buffer base
  fills : session.frames.IsChain CursorFrame.Fills

/-- The rules of what an operation answers and leaves behind. -/
inductive Performs (buffer : List UInt8) (base : Nat) (session : CursorSession) :
    CursorOperation → CursorAnswer → CursorSession → Prop where
  /-- An unread octet is shown. -/
  | peeked {operation : CursorOperation} {offset : Nat} {octet : UInt8}
      (looks : operation.place? = some offset)
      (inside : offset < session.top.window.remaining)
      (stand : StandAt buffer base (session.top.window.position + offset) [octet]) :
      Performs buffer base session operation (.number octet.toNat) session
  /-- Behind the last octet there is nothing to show. -/
  | peekedNothing {operation : CursorOperation} {offset : Nat}
      (looks : operation.place? = some offset)
      (behind : session.top.window.remaining ≤ offset) :
      Performs buffer base session operation .nothing session
  /-- All unread octets are shown. -/
  | peekedRest {octets : List UInt8}
      (length_eq : octets.length = session.top.window.remaining)
      (stand : StandAt buffer base session.top.window.position octets) :
      Performs buffer base session .peekRest (.octets octets) session
  /-- All unread octets are handed over. -/
  | readRest {octets : List UInt8}
      (length_eq : octets.length = session.top.window.remaining)
      (stand : StandAt buffer base session.top.window.position octets) :
      Performs buffer base session .rest (.octets octets) (session.moved octets.length)
  /-- As many octets are handed over as were asked for. -/
  | served {operation : CursorOperation} {octets : List UInt8} {answer : CursorAnswer}
      (tells : operation.Tells octets answer)
      (fits : octets.length ≤ session.top.window.remaining)
      (stand : StandAt buffer base session.top.window.position octets) :
      Performs buffer base session operation answer (session.moved octets.length)
  /-- As many octets as were asked for become a window of their own. -/
  | opened {octets : List UInt8}
      (fits : octets.length ≤ session.top.window.remaining)
      (stand : StandAt buffer base session.top.window.position octets) :
      Performs buffer base session (.enter octets.length) .nothing (session.entered octets)
  /-- Fewer octets are left than were asked for. -/
  | refused {operation : CursorOperation} {count : Nat}
      (demands : operation.demand? = some count)
      (short : session.top.window.remaining < count) :
      Performs buffer base session operation
        (.shortage ⟨count, session.top.window.remaining⟩) session
  /-- The window around the innermost one is the innermost one again. -/
  | closed {frame : CursorFrame} {others : List CursorFrame}
      (surrounded : session.outer = frame :: others) :
      Performs buffer base session .leave .nothing ⟨frame, others⟩
  /-- There is no window around the outermost one. -/
  | stayed
      (outermost : session.outer = []) :
      Performs buffer base session .leave .nothing session

section Steps

variable {buffer : List UInt8} {base : Nat} {session : CursorSession}

theorem ofOctets_isOver
    (buffer : List UInt8)
    (base : Nat) :
    (ofOctets buffer base).IsOver buffer base where
  shows := List.forall_mem_singleton.mpr (.ofOctets (.refl buffer base))
  fills := .singleton _

theorem IsOver.top
    (isOver : session.IsOver buffer base) :
    session.top.Shows buffer base :=
  isOver.shows _ List.mem_cons_self

/-- The window around the innermost one goes on where the innermost one ends. -/
theorem IsOver.stop_eq
    {frame : CursorFrame}
    {others : List CursorFrame}
    (isOver : session.IsOver buffer base)
    (surrounded : session.outer = frame :: others) :
    session.top.window.stop = frame.window.position := by
  have fillAll := isOver.fills
  rw [frames, surrounded] at fillAll
  exact (List.isChain_cons_cons.mp fillAll).1.stop_eq

/-- A read that depends on the number of unread octets alone is served or refused by it. -/
theorem IsOver.performs_settle
    {operation : CursorOperation}
    {count : Nat}
    {value : α}
    {answer : α → CursorAnswer}
    {outcome : Except Shortage (α × Window)}
    (isOver : session.IsOver buffer base)
    (demands : operation.demand? = some count)
    (outcome_eq : outcome =
      if count ≤ session.top.window.remaining then
        .ok (value, session.top.window.advance count)
      else
        .error ⟨count, session.top.window.remaining⟩)
    (tells : count ≤ session.top.window.remaining →
      operation.Tells (session.top.window.rest.take count) (answer value)) :
    session.Performs buffer base operation
      (session.settle answer outcome).1 (session.settle answer outcome).2 := by
  subst outcome_eq
  by_cases fits : count ≤ session.top.window.remaining
  · have length_eq : (session.top.window.rest.take count).length = count :=
      List.length_take_of_le fits
    have served :=
      Performs.served (tells fits) (by rwa [length_eq]) (isOver.top.front fits)
    rw [length_eq] at served
    rw [if_pos fits]
    exact served
  · rw [if_neg fits]
    exact .refused demands (Nat.lt_of_not_le fits)

/-- An octet is shown if one is left in its place. -/
theorem IsOver.performs_peek
    {operation : CursorOperation}
    {offset : Nat}
    (isOver : session.IsOver buffer base)
    (looks : operation.place? = some offset) :
    session.Performs buffer base operation
      (step.ofPeeked (session.top.window.rest[offset]?)) session := by
  cases found : session.top.window.rest[offset]? with
  | none =>
      exact .peekedNothing looks (List.getElem?_eq_none_iff.mp found)
  | some octet =>
      obtain ⟨inside, rfl⟩ := List.getElem?_eq_some_iff.mp found
      have stand :
          StandAt buffer base (session.top.window.position + offset)
            ((session.top.window.rest.drop offset).take 1) :=
        isOver.top.unread inside
      rw [List.drop_eq_getElem_cons inside, List.take_succ_cons, List.take_zero] at stand
      exact .peeked looks inside stand

/-- Every operation follows the rules. -/
theorem IsOver.performs_step
    (isOver : session.IsOver buffer base)
    (operation : CursorOperation) :
    session.Performs buffer base operation
      (session.step operation).1 (session.step operation).2 := by
  have whole : session.top.window.rest.length = session.top.window.remaining :=
    rfl
  have unread : StandAt buffer base session.top.window.position session.top.window.rest := by
    have stand := isOver.top.front (Nat.le_refl _)
    rwa [← whole, List.take_length] at stand
  cases operation with
  | peek =>
      have performs :
          session.Performs buffer base .peek
            (step.ofPeeked (session.top.window.rest[0]?)) session :=
        isOver.performs_peek rfl
      rwa [← List.head?_eq_getElem?] at performs
  | peekAt offset =>
      exact isOver.performs_peek rfl
  | octet =>
      refine isOver.performs_settle rfl (Window.octet_eq _) fun fits => ?_
      rw [Window.take_one fits]
      exact .octet _
  | number width =>
      refine isOver.performs_settle rfl (Window.number_eq _ _) fun fits => ?_
      have told :=
        CursorOperation.Tells.number (bigEndian_spells (session.top.window.rest.take width))
      rwa [List.length_take_of_le fits] at told
  | octets count =>
      refine isOver.performs_settle rfl (Window.take_eq _ _) fun fits => ?_
      have told := CursorOperation.Tells.octets (session.top.window.rest.take count)
      rwa [List.length_take_of_le fits] at told
  | skip count =>
      refine isOver.performs_settle rfl (Window.take_eq _ _) fun fits => ?_
      have told := CursorOperation.Tells.skip (session.top.window.rest.take count)
      rwa [List.length_take_of_le fits] at told
  | rest =>
      exact .readRest whole unread
  | peekRest =>
      exact .peekedRest whole unread
  | enter count =>
      by_cases fits : count ≤ session.top.window.remaining
      · have length_eq : (session.top.window.rest.take count).length = count :=
          List.length_take_of_le fits
        have opened :=
          Performs.opened (by rwa [length_eq]) (isOver.top.front fits)
        rw [length_eq] at opened
        simp only [step, Window.inner_eq, if_pos fits]
        rw [entered, length_eq] at opened
        exact opened
      · simp only [step, Window.inner_eq, if_neg fits]
        exact .refused rfl (Nat.lt_of_not_le fits)
  | leave =>
      cases surrounded : session.outer with
      | nil =>
          simp only [step, surrounded]
          exact .stayed surrounded
      | cons frame others =>
          simp only [step, surrounded]
          exact .closed surrounded

end Steps

/-! ## What an operation leaves behind -/

/-- The ways in which the windows of a session may change. -/
inductive Moves (buffer : List UInt8) (base : Nat) (session : CursorSession) :
    CursorSession → Prop where
  | stays :
      Moves buffer base session session
  | advances {count : Nat}
      (fits : count ≤ session.top.window.remaining) :
      Moves buffer base session (session.moved count)
  | opens {octets : List UInt8}
      (fits : octets.length ≤ session.top.window.remaining)
      (stand : StandAt buffer base session.top.window.position octets) :
      Moves buffer base session (session.entered octets)
  | closes {frame : CursorFrame} {others : List CursorFrame}
      (surrounded : session.outer = frame :: others) :
      Moves buffer base session ⟨frame, others⟩

section Moves

variable {buffer : List UInt8} {base : Nat} {session next : CursorSession}

theorem Performs.moves
    {operation : CursorOperation}
    {answer : CursorAnswer}
    (performs : session.Performs buffer base operation answer next) :
    session.Moves buffer base next := by
  cases performs with
  | peeked | peekedNothing | peekedRest | refused | stayed =>
      exact .stays
  | readRest length_eq =>
      exact .advances (Nat.le_of_eq length_eq)
  | served _ fits =>
      exact .advances fits
  | opened fits stand =>
      exact .opens fits stand
  | closed surrounded =>
      exact .closes surrounded

/-- Moving the innermost cursor over unread octets leaves all windows in order. -/
theorem IsOver.moved
    {count : Nat}
    (isOver : session.IsOver buffer base)
    (fits : count ≤ session.top.window.remaining) :
    (session.moved count).IsOver buffer base := by
  obtain ⟨showAll, fillAll⟩ := isOver
  rw [frames, List.forall_mem_cons] at showAll
  rw [frames, List.isChain_cons] at fillAll
  refine ⟨List.forall_mem_cons.mpr ⟨showAll.1.moved fits, showAll.2⟩, ?_⟩
  refine List.isChain_cons.mpr ⟨fun frame isNext => ?_, fillAll.2⟩
  exact (fillAll.1 frame isNext).moved fits

theorem Moves.isOver
    (isOver : session.IsOver buffer base)
    (moves : session.Moves buffer base next) :
    next.IsOver buffer base := by
  cases moves with
  | stays =>
      exact isOver
  | advances fits =>
      exact isOver.moved fits
  | opens fits stand =>
      obtain ⟨showAll, fillAll⟩ := isOver.moved fits
      refine ⟨List.forall_mem_cons.mpr ⟨.ofOctets stand, showAll⟩, .cons_cons ?_ fillAll⟩
      exact CursorFrame.fills_moved _ _
  | closes surrounded =>
      obtain ⟨showAll, fillAll⟩ := isOver
      rw [frames, surrounded] at showAll fillAll
      exact ⟨(List.forall_mem_cons.mp showAll).2, (List.isChain_cons_cons.mp fillAll).2⟩

/-- The innermost cursor never goes back, also when a window is closed. -/
theorem Moves.position_le
    (isOver : session.IsOver buffer base)
    (moves : session.Moves buffer base next) :
    session.top.window.position ≤ next.top.window.position := by
  cases moves with
  | stays =>
      exact Nat.le_refl _
  | advances fits =>
      rw [moved, CursorFrame.moved, Window.advance_position]
      exact Nat.le_add_right _ _
  | opens fits stand =>
      exact Nat.le_refl _
  | closes surrounded =>
      rw [← isOver.stop_eq surrounded]
      exact Nat.le_add_right _ _

end Moves

end CursorSession

end LteNas
