import LteNas.Element.Fault

namespace LteNas

/-!
# Readers

A reader turns the octets in front of a window into a value, or finds a fault.
Readers of lists come in two tempers: a strict one fails with its first bad
record, a lenient one keeps the records before it and reports the rest.
-/

/-- A computation that reads from a window. -/
abbrev Reader := StateT Window (Except Fault)

namespace Reader

/-- A shortage of octets is a fault. -/
def ofRead (read : Window → Except Shortage (α × Window)) : Reader α :=
  fun window => (read window).mapError .tooShort

def octet : Reader UInt8 :=
  ofRead Window.octet

/-- A big-endian number of `width` octets. -/
def number (width : Nat) : Reader Nat :=
  ofRead (·.number width)

def octets (count : Nat) : Reader (List UInt8) :=
  ofRead (·.take count)

/-- Exactly `count` octets, told apart by their places. -/
def vector (count : Nat) : Reader (Vector UInt8 count) := do
  let front ← octets count
  return Vector.ofFn fun place => front.getD place.val 0

/-- The next `count` octets as a window of their own. -/
def inner (count : Nat) : Reader Window :=
  ofRead (·.inner count)

/-- All octets that are left. -/
def rest : Reader (List UInt8) :=
  fun window => .ok (window.rest, window.exhaust)

/-- Octets are left. -/
def hasMore : Reader Bool :=
  fun window => .ok (!window.isEmpty, window)

/-- The number of octets that are left. -/
def remaining : Reader Nat :=
  fun window => .ok (window.remaining, window)

def here : Reader Window :=
  fun window => .ok (window, window)

/-- Give up. -/
def fail (fault : Fault) : Reader α :=
  fun _ => .error fault

/-- A reader whose failure is another fault. -/
def blaming (reader : Reader α) (fault : Fault) : Reader α :=
  fun window => (reader window).mapError fun _ => fault

/-- Go on only if exactly `length` octets are left. -/
def expectExactly (length : Nat) : Reader Unit := do
  let actual ← remaining
  if actual ≠ length then
    fail (.lengthMismatch length actual)

/-- Go on only if at least `length` octets are left. -/
def expectAtLeast (length : Nat) : Reader Unit := do
  let actual ← remaining
  if actual < length then
    fail (.tooShort ⟨length, actual⟩)

/-- Read only if octets are left. -/
def ifMore (reader : Reader α) : Reader (Option α) := do
  if ← hasMore then
    return some (← reader)
  else
    return none

/-- The octet of a window that holds just one. -/
def soleOctet : Reader UInt8 := do
  expectExactly 1
  octet

/-- The number that all octets spell, which must be `width` many. -/
def soleNumber (width : Nat) : Reader Nat := do
  expectExactly width
  number width

/-- A reader applied `count` times. -/
def times (reader : Reader α) : Nat → Reader (List α)
  | 0 =>
      return []
  | count + 1 => do
      let first ← reader
      let others ← times reader count
      return first :: others

end Reader

/-- The records read from a window up to the first that fails. -/
structure RecordRun (α : Type) where
  records : List α
  /-- The window behind the records. -/
  tail : Window
  /-- Why the record at the tail failed, if one did. -/
  fault : Option Fault

/-- Read records until `limit` are read, no octets are left, or one fails. -/
def Window.run (record : Reader α) : (limit : Nat) → Window → RecordRun α
  | 0, window =>
      ⟨[], window, none⟩
  | limit + 1, window =>
      if window.isEmpty then
        ⟨[], window, none⟩
      else
        match record window with
        | .error fault =>
            ⟨[], window, some fault⟩
        | .ok (first, after) =>
            let others := run record limit after
            { others with records := first :: others.records }

/-- Read records to the end of a window; each of them must consume an octet. -/
def Window.runAll (record : Reader α) (window : Window) : RecordRun α :=
  window.run record window.remaining

namespace RecordRun

/-- The record at the tail, as far as it goes. -/
def complaint (run : RecordRun α) (label : String) : List Diagnostic :=
  match run.fault with
  | none => []
  | some fault => [⟨fault.diagnosis label, run.tail.remainingSpan⟩]

/-- The window behind the run, past the record that failed. -/
def after (run : RecordRun α) : Window :=
  if run.fault.isSome then run.tail.exhaust else run.tail

end RecordRun

namespace Reader

/-- Strict: records to the end; a bad record is the fault of the whole list. -/
def every (record : Reader α) : Reader (List α) :=
  fun window =>
    let run := window.runAll record
    match run.fault with
    | none => .ok (run.records, run.tail)
    | some fault => .error fault

/-- At most `limit` records, stopping in front of one that is not complete. -/
def available (limit : Nat) (record : Reader α) : Reader (List α) :=
  fun window =>
    let run := window.run record limit
    .ok (run.records, run.tail)

/-- Lenient: at most `limit` records; a bad record called `label` ends the list and is reported. -/
def upTo
    (limit : Nat)
    (label : String)
    (record : Reader α) :
    Reader (List α × List Diagnostic) :=
  fun window =>
    let run := window.run record limit
    .ok ((run.records, run.complaint label), run.after)

/-- Lenient: records to the end; a bad record called `label` ends the list and is reported. -/
def completeOnes
    (label : String)
    (record : Reader α) :
    Reader (List α × List Diagnostic) :=
  fun window => upTo window.remaining label record window

end Reader

end LteNas
