import LteNas.CommandLine.Run
import LteNas.Proofs.CommandLine.HexLine

namespace LteNas

/-!
# Lines one after the other

Lines can be read, decoded and written one at a time.  What has been written is
not touched again, so every line adds its part to what the lines in front of it
gave, and a line without a message adds nothing to the output.
-/

namespace CommandLine

/-! ## Messages and malformed lines -/

/-- The messages that lines hold. -/
def messagesOf (lines : List String) : List (List UInt8) :=
  lines.filterMap HexLine.message?

/-- The complaint that a numbered line gives rise to, if it is malformed. -/
def badLine? (numbered : String × Nat) : Option BadLine :=
  match HexLine.read numbered.1 with
  | .ok _ => none
  | .error fault => some ⟨numbered.2, fault⟩

/-- The malformed ones among lines that are counted from a number on. -/
def badLinesFrom (number : Nat) (lines : List String) : List BadLine :=
  (lines.zipIdx number).filterMap badLine?

/-- Reading lines gives the messages and the malformed lines, both in order. -/
theorem readLines_eq
    (number : Nat)
    (lines : List String) :
    readLines number lines = ⟨messagesOf lines, badLinesFrom number lines⟩ := by
  induction lines generalizing number with
  | nil =>
      rfl
  | cons line others inductionHypothesis =>
      rw [readLines, inductionHypothesis]
      simp only [messagesOf, badLinesFrom, List.zipIdx_cons, List.filterMap_cons, badLine?,
        HexLine.message?]
      cases HexLine.read line with
      | ok octets? =>
          cases octets? <;> rfl
      | error fault =>
          rfl

section Snoc

variable {number : Nat} {lines : List String} {line : String}

theorem messagesOf_snoc :
    messagesOf (lines ++ [line]) = messagesOf lines ++ (HexLine.message? line).toList := by
  rw [messagesOf, List.filterMap_append, List.filterMap_cons, List.filterMap_nil]
  cases HexLine.message? line <;> rfl

theorem badLinesFrom_snoc :
    badLinesFrom number (lines ++ [line]) =
      badLinesFrom number lines ++ (badLine? (line, number + lines.length)).toList := by
  simp only [badLinesFrom, List.zipIdx_append, List.filterMap_append, List.zipIdx_cons,
    List.zipIdx_nil, List.filterMap_cons, List.filterMap_nil]
  cases badLine? (line, number + lines.length) <;> rfl

end Snoc

theorem badLine?_eq_none_iff
    {numbered : String × Nat} :
    badLine? numbered = none ↔ ¬ HexLine.IsMalformed numbered.1 := by
  rw [badLine?, HexLine.IsMalformed]
  cases HexLine.read numbered.1 <;> simp

theorem badLine?_eq_some_iff
    {line : String}
    {number : Nat}
    {bad : BadLine} :
    badLine? (line, number) = some bad ↔
      bad.number = number ∧ HexLine.read line = .error bad.fault := by
  obtain ⟨badNumber, fault⟩ := bad
  rw [badLine?]
  cases HexLine.read line <;> simp [eq_comm]

/-- Malformed lines are listed with their numbers, in order and none left out. -/
structure ListsMalformed (lines : List String) (badLines : List BadLine) : Prop where
  isOrdered : badLines.Pairwise fun earlier later => earlier.number < later.number
  mem_iff :
    ∀ number fault,
      ⟨number, fault⟩ ∈ badLines ↔
        ∃ line, (line, number) ∈ lines.zipIdx 1 ∧ HexLine.read line = .error fault

theorem badLinesFrom_listsMalformed
    (lines : List String) :
    ListsMalformed lines (badLinesFrom 1 lines) where
  isOrdered := by
    have ascending : ((lines.zipIdx 1).map Prod.snd).Pairwise (· < ·) := by
      rw [List.zipIdx_map_snd]
      exact List.pairwise_lt_range'
    rw [badLinesFrom, List.pairwise_filterMap]
    refine (List.pairwise_map.mp ascending).imp fun {earlier later} before => ?_
    intro bad found other otherFound
    rw [badLine?_eq_some_iff] at found otherFound
    rwa [found.1, otherFound.1]
  mem_iff := by
    intro number fault
    simp only [badLinesFrom, List.mem_filterMap, Prod.exists, badLine?_eq_some_iff]
    constructor
    · rintro ⟨line, _, member, rfl, malformed⟩
      exact ⟨line, member, malformed⟩
    · rintro ⟨line, member, malformed⟩
      exact ⟨line, number, member, rfl, malformed⟩

theorem badLinesFrom_eq_nil_iff
    {number : Nat}
    {lines : List String} :
    badLinesFrom number lines = [] ↔ ∀ line ∈ lines, ¬ HexLine.IsMalformed line := by
  have every_iff :
      (∀ numbered ∈ lines.zipIdx number, ¬ HexLine.IsMalformed numbered.1) ↔
        ∀ line ∈ (lines.zipIdx number).map Prod.fst, ¬ HexLine.IsMalformed line := by
    simp only [List.forall_mem_map]
  rw [List.zipIdx_map_fst] at every_iff
  rw [← every_iff, badLinesFrom, List.filterMap_eq_nil_iff]
  simp only [badLine?_eq_none_iff]

/-- The complaint behind those about malformed lines, if there are any. -/
def closing (badLines : List BadLine) : List String :=
  if badLines = [] then [] else [summary badLines.length]

/-! ## Texts with an empty line between them -/

theorem joinMessages_snoc
    (texts : List String)
    (text : String) :
    joinMessages (texts ++ [text]) =
      joinMessages texts ++ (if texts = [] then "" else "\n") ++ text ++ "\n" := by
  cases texts with
  | nil =>
      simp [joinMessages]
  | cons first others =>
      rw [joinMessages, List.map_append, String.intercalate_append_of_ne_nil (by simp) (by simp)]
      simp [joinMessages, String.append_assoc]

/-! ## The loop -/

/-- How far the lines have been worked off, and what has been written on the way. -/
structure LineLoop where
  /-- The number of the next line. -/
  number : Nat
  /-- No message has been written. -/
  isFirst : Bool
  failures : Nat
  output : String
  complaints : List String
  deriving Repr, DecidableEq

namespace LineLoop

def start : LineLoop :=
  ⟨1, true, 0, "", []⟩

section Steps

variable (direction : Direction) (config : Config)

/-- Work off one line. -/
def step (loop : LineLoop) (line : String) : LineLoop :=
  let passed := { loop with number := loop.number + 1 }
  match HexLine.read line with
  | .ok none =>
      passed
  | .ok (some octets) =>
      let gap := if loop.isFirst then "" else "\n"
      { passed with
        isFirst := false
        output := loop.output ++ gap ++ (decode octets direction config).text ++ "\n" }
  | .error fault =>
      let bad : BadLine := ⟨loop.number, fault⟩
      { passed with
        failures := loop.failures + 1
        complaints := loop.complaints ++ [bad.message] }

def run (lines : List String) : LineLoop :=
  lines.foldl (step direction config) start

/-- What a run comes to when all lines have been worked off. -/
def outcome (loop : LineLoop) : Outcome :=
  if loop.failures = 0 then
    ⟨0, loop.output, loop.complaints⟩
  else
    ⟨1, loop.output, loop.complaints ++ [summary loop.failures]⟩

/-- The text that the messages of lines are written with. -/
def textOf (lines : List String) : String :=
  joinMessages ((messagesOf lines).map fun octets => (decode octets direction config).text)

/-- The loop stands behind lines, and has written what they hold. -/
structure IsBehind (lines : List String) (loop : LineLoop) : Prop where
  number_eq : loop.number = 1 + lines.length
  isFirst_iff : loop.isFirst = true ↔ messagesOf lines = []
  failures_eq : loop.failures = (badLinesFrom 1 lines).length
  output_eq : loop.output = textOf direction config lines
  complaints_eq : loop.complaints = (badLinesFrom 1 lines).map BadLine.message

variable {direction config}

theorem start_isBehind :
    IsBehind direction config [] start where
  number_eq := rfl
  isFirst_iff := ⟨fun _ => rfl, fun _ => rfl⟩
  failures_eq := rfl
  output_eq := rfl
  complaints_eq := rfl

/-- A line adds its part, whatever lines there were. -/
theorem IsBehind.step
    {lines : List String}
    {loop : LineLoop}
    (behind : IsBehind direction config lines loop)
    (line : String) :
    IsBehind direction config (lines ++ [line]) (loop.step direction config line) := by
  obtain ⟨number_eq, isFirst_iff, failures_eq, output_eq, complaints_eq⟩ := behind
  have number_snoc : loop.number + 1 = 1 + (lines ++ [line]).length := by
    rw [List.length_append, List.length_singleton]
    omega
  cases read_eq : HexLine.read line with
  | error fault =>
      have messages_eq : messagesOf (lines ++ [line]) = messagesOf lines := by
        simp [messagesOf_snoc, HexLine.message?, read_eq]
      have badLines_eq :
          badLinesFrom 1 (lines ++ [line]) = badLinesFrom 1 lines ++ [⟨loop.number, fault⟩] := by
        simp [badLinesFrom_snoc, badLine?, read_eq, number_eq]
      simp only [LineLoop.step, read_eq]
      constructor <;>
        simp [textOf, number_snoc, messages_eq, badLines_eq, isFirst_iff, failures_eq,
          output_eq, complaints_eq]
  | ok octets? =>
      have badLines_eq : badLinesFrom 1 (lines ++ [line]) = badLinesFrom 1 lines := by
        simp [badLinesFrom_snoc, badLine?, read_eq]
      cases octets? with
      | none =>
          have messages_eq : messagesOf (lines ++ [line]) = messagesOf lines := by
            simp [messagesOf_snoc, HexLine.message?, read_eq]
          simp only [LineLoop.step, read_eq]
          constructor <;>
            simp [textOf, number_snoc, messages_eq, badLines_eq, isFirst_iff, failures_eq,
              output_eq, complaints_eq]
      | some octets =>
          have messages_eq : messagesOf (lines ++ [line]) = messagesOf lines ++ [octets] := by
            simp [messagesOf_snoc, HexLine.message?, read_eq]
          simp only [LineLoop.step, read_eq]
          constructor <;>
            simp [textOf, number_snoc, messages_eq, badLines_eq, isFirst_iff, failures_eq,
              output_eq, complaints_eq, joinMessages_snoc]

theorem IsBehind.foldl
    {lines : List String}
    {loop : LineLoop}
    (behind : IsBehind direction config lines loop)
    (others : List String) :
    IsBehind direction config (lines ++ others)
      (others.foldl (LineLoop.step direction config) loop) := by
  induction others generalizing lines loop with
  | nil =>
      rwa [List.append_nil]
  | cons line others inductionHypothesis =>
      rw [List.foldl_cons, List.append_cons]
      exact inductionHypothesis (behind.step line)

/-- What has been written tells how the run ends. -/
theorem IsBehind.outcome_eq
    {lines : List String}
    {loop : LineLoop}
    (behind : IsBehind direction config lines loop) :
    loop.outcome =
      { exitCode := if badLinesFrom 1 lines = [] then 0 else 1
        output := textOf direction config lines
        complaints :=
          (badLinesFrom 1 lines).map BadLine.message ++ closing (badLinesFrom 1 lines) } := by
  obtain ⟨-, -, failures_eq, output_eq, complaints_eq⟩ := behind
  simp only [outcome, failures_eq, output_eq, complaints_eq, List.length_eq_zero_iff, closing]
  split <;> simp

end Steps

theorem run_isBehind
    (direction : Direction)
    (config : Config)
    (lines : List String) :
    IsBehind direction config lines (run direction config lines) :=
  start_isBehind.foldl lines

end LineLoop

/-- Lines that are decoded together come to what the loop over them comes to. -/
theorem decodeLines_eq_run
    (direction : Direction)
    (config : Config)
    (lines : List String) :
    decodeLines direction config lines = (LineLoop.run direction config lines).outcome := by
  rw [(LineLoop.run_isBehind direction config lines).outcome_eq, decodeLines, readLines_eq,
    closing]
  cases badLinesFrom 1 lines <;> simp [LineLoop.textOf]

end CommandLine

end LteNas
