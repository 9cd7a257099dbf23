import LteNas.Proofs.Octets.CursorStep

namespace LteNas

/-!
# Runs of cursor operations

A run is faithful to its buffer: each operation follows the rules, a window that
stays open keeps its octets while its cursor moves only forward, and a window
that is opened later lies inside an earlier one that is still open, and behind
one that is not.  That is carried by the position of the innermost cursor, which
never goes back, and by the window around it, which goes on where it ends.
-/

/-! ## Windows by level -/

namespace CursorSession

/-- The number of windows around the innermost one. -/
def depth (session : CursorSession) : Nat :=
  session.outer.length

/-- The window at a level, the outermost one being at level zero. -/
def window? (session : CursorSession) (level : Nat) : Option CursorFrame :=
  session.frames.reverse[level]?

section Levels

variable {buffer : List UInt8} {base level : Nat} {session next : CursorSession}
  {frame : CursorFrame}

theorem length_frames
    (session : CursorSession) :
    session.frames.length = session.depth + 1 := by
  rfl

theorem window?_depth
    (session : CursorSession) :
    session.window? session.depth = some session.top := by
  rw [window?, frames, List.reverse_cons, depth, ← List.length_reverse,
    List.getElem?_concat_length]

theorem window?_mem
    (found : session.window? level = some frame) :
    frame ∈ session.frames :=
  List.mem_reverse.mp (List.mem_of_getElem? found)

theorem le_depth_of_window?
    (found : session.window? level = some frame) :
    level ≤ session.depth := by
  obtain ⟨inside, -⟩ := List.getElem?_eq_some_iff.mp found
  rw [List.length_reverse, length_frames] at inside
  exact Nat.le_of_lt_succ inside

theorem exists_window?
    (inside : level ≤ session.depth) :
    ∃ frame, session.window? level = some frame := by
  have bound : level < session.frames.reverse.length := by
    rw [List.length_reverse, length_frames]
    exact Nat.lt_succ_of_le inside
  exact ⟨_, List.getElem?_eq_getElem bound⟩

theorem window?_of_lt
    (inside : level < session.depth) :
    session.window? level = session.outer.reverse[level]? := by
  rw [window?, frames, List.reverse_cons, List.getElem?_append_left]
  rwa [List.length_reverse]

/-- A window that is put in front leaves the levels of the others. -/
theorem window?_of_cons
    (shape : next.frames = frame :: session.frames)
    (inside : level ≤ session.depth) :
    next.window? level = session.window? level := by
  rw [window?, shape, List.reverse_cons, List.getElem?_append_left]
  · rfl
  · rw [List.length_reverse, length_frames]
    exact Nat.lt_succ_of_le inside

/-- The innermost window lies inside every window of the session. -/
theorem IsOver.top_within
    (isOver : session.IsOver buffer base)
    (member : frame ∈ session.frames) :
    session.top.span.Within frame.span := by
  have fillAll := isOver.fills
  rw [frames] at fillAll member
  generalize session.top = top, session.outer = outer at fillAll member
  induction outer generalizing top with
  | nil =>
      rw [List.mem_singleton.mp member]
      exact .refl top.span_ordered
  | cons around outer inductionHypothesis =>
      obtain ⟨fills, others⟩ := List.isChain_cons_cons.mp fillAll
      rcases List.mem_cons.mp member with rfl | member
      · exact .refl frame.span_ordered
      · exact fills.span_within.trans (inductionHypothesis around others member)

/-- A cursor that moves changes no window but the innermost one. -/
theorem window?_moved
    (found : session.window? level = some frame)
    (count : Nat) :
    ∃ later, (session.moved count).window? level = some later ∧ frame.Advances later := by
  rcases Nat.lt_or_eq_of_le (le_depth_of_window? found) with inside | rfl
  · have insideMoved : level < (session.moved count).depth :=
      inside
    rw [window?_of_lt inside] at found
    exact ⟨frame, (window?_of_lt insideMoved).trans found, .refl frame⟩
  · rw [window?_depth] at found
    obtain rfl := Option.some.inj found
    exact ⟨_, window?_depth (session.moved count), session.top.advances_moved count⟩

/-- A window that stays open keeps its octets, and its cursor does not go back. -/
theorem Moves.window?_advances
    (moves : session.Moves buffer base next)
    (found : session.window? level = some frame)
    (staysOpen : level ≤ next.depth) :
    ∃ later, next.window? level = some later ∧ frame.Advances later := by
  cases moves with
  | stays =>
      exact ⟨frame, found, .refl frame⟩
  | @advances count fits =>
      exact window?_moved found count
  | @opens octets fits stand =>
      obtain ⟨later, laterFound, advances⟩ := window?_moved found octets.length
      have inside : level ≤ (session.moved octets.length).depth :=
        le_depth_of_window? laterFound
      have kept :
          (session.entered octets).window? level =
            (session.moved octets.length).window? level :=
        window?_of_cons rfl inside
      exact ⟨later, kept.trans laterFound, advances⟩
  | @closes around others surrounded =>
      have shape : session.frames = session.top :: (CursorSession.mk around others).frames := by
        rw [frames, surrounded]
        rfl
      have kept := window?_of_cons shape staysOpen
      exact ⟨frame, kept.symm.trans found, .refl frame⟩

/-- When a window is closed, the cursor around it stands at its end. -/
theorem Moves.position_eq_of_closed
    (isOver : session.IsOver buffer base)
    (moves : session.Moves buffer base next)
    (found : session.window? level = some frame)
    (isClosed : next.depth < level) :
    next.top.window.position = frame.window.stop := by
  have inside := le_depth_of_window? found
  cases moves with
  | stays =>
      exact absurd inside (Nat.not_le_of_lt isClosed)
  | advances fits =>
      exact absurd inside (Nat.not_le_of_lt isClosed)
  | opens fits stand =>
      exact absurd (Nat.le_succ_of_le inside) (Nat.not_le_of_lt isClosed)
  | @closes around others surrounded =>
      have depth_eq : session.depth = others.length + 1 := by
        rw [depth, surrounded, List.length_cons]
      -- only the innermost window can have been closed
      have isInnermost : level = session.depth :=
        Nat.le_antisymm inside (depth_eq ▸ isClosed)
      rw [isInnermost, window?_depth] at found
      obtain rfl := Option.some.inj found
      exact (isOver.stop_eq surrounded).symm

end Levels

/-! ## Sessions in a row -/

/-- The session after operations. -/
def after (session : CursorSession) (operations : List CursorOperation) : CursorSession :=
  operations.foldl (fun session operation => (session.step operation).2) session

/-- Each outcome of a run is that of its operation behind the operations in front of it. -/
theorem run_getElem?
    {operations : List CursorOperation}
    {operation : CursorOperation}
    {moment : Nat}
    (session : CursorSession)
    (found : operations[moment]? = some operation) :
    (session.run operations)[moment]? =
      some ((session.after (operations.take moment)).step operation) := by
  induction operations generalizing session moment with
  | nil =>
      cases found
  | cons first others inductionHypothesis =>
      cases moment with
      | zero =>
          obtain rfl := Option.some.inj found
          rfl
      | succ moment =>
          exact inductionHypothesis (session.step first).2 found

end CursorSession

/-! ## Runs -/

/-- Operations in order, over a buffer whose first octet stands at an absolute offset. -/
structure CursorRun where
  buffer : List UInt8
  base : Nat
  operations : List CursorOperation

namespace CursorRun

/-- The answers of a run, each with the session after it. -/
def outcomes (run : CursorRun) : List (CursorAnswer × CursorSession) :=
  (CursorSession.ofOctets run.buffer run.base).run run.operations

/-- The session after so many operations. -/
def session (run : CursorRun) (moment : Nat) : CursorSession :=
  (CursorSession.ofOctets run.buffer run.base).after (run.operations.take moment)

/-- No window up to a level is closed between two moments. -/
def StaysOpen (run : CursorRun) (level first last : Nat) : Prop :=
  ∀ moment, first ≤ moment → moment ≤ last → level ≤ (run.session moment).depth

/-- The operation at a moment opens a window, which is the innermost one at the next moment. -/
def Opens (run : CursorRun) (moment : Nat) : Prop :=
  ∃ count,
    run.operations[moment]? = some (.enter count) ∧
      count ≤ (run.session moment).top.window.remaining

/-- The run keeps to its buffer. -/
structure IsFaithful (run : CursorRun) : Prop where
  /-- Every operation is answered by the rules. -/
  performs {moment : Nat} {operation : CursorOperation} :
    run.operations[moment]? = some operation →
      ∃ answer,
        run.outcomes[moment]? = some (answer, run.session (moment + 1)) ∧
          (run.session moment).Performs run.buffer run.base operation answer
            (run.session (moment + 1))
  /-- At every moment all windows show the buffer, and lie inside one another. -/
  isOver (moment : Nat) :
    (run.session moment).IsOver run.buffer run.base
  /-- A window that stays open keeps its octets, and its cursor never goes back. -/
  advances {level first last : Nat} :
    first ≤ last → run.StaysOpen level first last →
      ∃ earlier later,
        (run.session first).window? level = some earlier ∧
          (run.session last).window? level = some later ∧ earlier.Advances later
  /-- What is opened while an earlier window is still open lies inside that window. -/
  nests {level first last : Nat} {earlier : CursorFrame} :
    first ≤ last → (run.session first).window? level = some earlier → run.Opens last →
      run.StaysOpen level first last →
        (run.session (last + 1)).top.span.Within earlier.span
  /--
  What is opened when an earlier window has been closed lies behind that window.
  So two windows that are opened one after the other in the same window are disjoint.
  -/
  parts {level first last : Nat} {earlier : CursorFrame} :
    first ≤ last → (run.session first).window? level = some earlier → run.Opens last →
      ¬ run.StaysOpen level first last →
        earlier.span.stop ≤ (run.session (last + 1)).top.span.start

section Moments

variable (run : CursorRun)

theorem session_zero :
    run.session 0 = .ofOctets run.buffer run.base := by
  rfl

theorem session_succ
    {moment : Nat}
    {operation : CursorOperation}
    (found : run.operations[moment]? = some operation) :
    run.session (moment + 1) = ((run.session moment).step operation).2 := by
  rw [session, session, List.take_add_one, found, CursorSession.after, List.foldl_append]
  rfl

/-- Behind the last operation nothing changes. -/
theorem session_succ_of_none
    {moment : Nat}
    (found : run.operations[moment]? = none) :
    run.session (moment + 1) = run.session moment := by
  rw [session, session, List.take_add_one, found, Option.toList_none, List.append_nil]

theorem moves_of_isOver
    {moment : Nat}
    (isOver : (run.session moment).IsOver run.buffer run.base) :
    (run.session moment).Moves run.buffer run.base (run.session (moment + 1)) := by
  cases found : run.operations[moment]? with
  | none =>
      rw [run.session_succ_of_none found]
      exact .stays
  | some operation =>
      rw [run.session_succ found]
      exact (isOver.performs_step operation).moves

theorem session_isOver
    (moment : Nat) :
    (run.session moment).IsOver run.buffer run.base := by
  induction moment with
  | zero =>
      rw [run.session_zero]
      exact CursorSession.ofOctets_isOver run.buffer run.base
  | succ moment inductionHypothesis =>
      exact (run.moves_of_isOver inductionHypothesis).isOver inductionHypothesis

theorem shows_of_window?
    {level moment : Nat}
    {frame : CursorFrame}
    (found : (run.session moment).window? level = some frame) :
    frame.Shows run.buffer run.base :=
  (run.session_isOver moment).shows frame (CursorSession.window?_mem found)

theorem moves
    (moment : Nat) :
    (run.session moment).Moves run.buffer run.base (run.session (moment + 1)) :=
  run.moves_of_isOver (run.session_isOver moment)

theorem position_le
    {first last : Nat}
    (ordered : first ≤ last) :
    (run.session first).top.window.position ≤ (run.session last).top.window.position := by
  induction last, ordered using Nat.le_induction with
  | base =>
      exact Nat.le_refl _
  | succ last _ inductionHypothesis =>
      have step := (run.moves last).position_le (run.session_isOver last)
      exact Nat.le_trans inductionHypothesis step

theorem exists_advances
    {level first last : Nat}
    (ordered : first ≤ last)
    (staysOpen : run.StaysOpen level first last)
    {earlier : CursorFrame}
    (found : (run.session first).window? level = some earlier) :
    ∃ later, (run.session last).window? level = some later ∧ earlier.Advances later := by
  induction last, ordered using Nat.le_induction with
  | base =>
      exact ⟨earlier, found, .refl earlier⟩
  | succ last ordered inductionHypothesis =>
      obtain ⟨between, betweenFound, front⟩ :=
        inductionHypothesis fun moment after before =>
          staysOpen moment after (Nat.le_succ_of_le before)
      have isOpen := staysOpen (last + 1) (Nat.le_succ_of_le ordered) (Nat.le_refl _)
      obtain ⟨later, laterFound, back⟩ := (run.moves last).window?_advances betweenFound isOpen
      exact ⟨later, laterFound, front.trans back⟩

/-- A window that has not stayed open has been passed. -/
theorem stop_le_of_closed
    {level first last : Nat}
    (ordered : first ≤ last)
    {frame : CursorFrame}
    (found : (run.session first).window? level = some frame)
    (isClosed : ¬ run.StaysOpen level first last) :
    frame.span.stop ≤ (run.session last).top.window.position := by
  induction last, ordered using Nat.le_induction with
  | base =>
      refine absurd (fun moment after before => ?_) isClosed
      rw [Nat.le_antisymm before after]
      exact CursorSession.le_depth_of_window? found
  | succ last ordered inductionHypothesis =>
      have step := (run.moves last).position_le (run.session_isOver last)
      by_cases staysOpen : run.StaysOpen level first last
      · -- the window is closed by the last operation
        obtain ⟨later, laterFound, advances⟩ := run.exists_advances ordered staysOpen found
        have closes : (run.session (last + 1)).depth < level := by
          by_contra isOpen
          refine isClosed fun moment after before => ?_
          rcases Nat.lt_or_eq_of_le before with earlier | rfl
          · exact staysOpen moment after (Nat.le_of_lt_succ earlier)
          · exact Nat.le_of_not_lt isOpen
        have position_eq :=
          (run.moves last).position_eq_of_closed (run.session_isOver last) laterFound closes
        have span_eq :=
          advances.span_eq (run.shows_of_window? found) (run.shows_of_window? laterFound)
        rw [position_eq, ← span_eq]
        exact Nat.le_refl _
      · exact Nat.le_trans (inductionHypothesis staysOpen) step

theorem Opens.session_eq
    {run : CursorRun}
    {moment : Nat}
    (opens : run.Opens moment) :
    ∃ octets, run.session (moment + 1) = (run.session moment).entered octets := by
  obtain ⟨count, found, fits⟩ := opens
  have length_eq : ((run.session moment).top.window.rest.take count).length = count :=
    List.length_take_of_le fits
  refine ⟨(run.session moment).top.window.rest.take count, ?_⟩
  rw [run.session_succ found, CursorSession.step, Window.inner_eq, if_pos fits,
    CursorSession.entered, length_eq]
  rfl

/-- An earlier window that is still open when another one is opened is open behind that, too. -/
theorem Opens.staysOpen
    {run : CursorRun}
    {level first last : Nat}
    (opens : run.Opens last)
    (ordered : first ≤ last)
    (staysOpen : run.StaysOpen level first last) :
    run.StaysOpen level first (last + 1) := by
  intro moment after before
  rcases Nat.lt_or_eq_of_le before with earlier | rfl
  · exact staysOpen moment after (Nat.le_of_lt_succ earlier)
  · obtain ⟨octets, session_eq⟩ := opens.session_eq
    rw [session_eq]
    exact Nat.le_succ_of_le (staysOpen last ordered (Nat.le_refl _))

end Moments

/-- Two windows in a row, the second of which is asked for more than is left in it. -/
example :
    ((CursorSession.ofOctets [0x00, 0x01, 0x02, 0x03, 0x04, 0x05] 10).run
        [.skip 1, .enter 3, .number 2, .leave, .enter 2, .number 3, .rest]).map
        (fun outcome => (outcome.1, outcome.2.top.window.position)) =
      [ (.nothing, 11), (.nothing, 11), (.number 0x0102, 13), (.nothing, 14),
        (.nothing, 14), (.shortage ⟨3, 2⟩, 14), (.octets [0x04, 0x05], 16) ] := by
  decide

end CursorRun

end LteNas
