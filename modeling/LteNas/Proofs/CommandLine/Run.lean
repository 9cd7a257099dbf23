import LteNas.Proofs.CommandLine.LineLoop
import Mathlib.Logic.Relation

namespace LteNas

/-!
# What a run writes

A run that has settings and lines writes one text for each message, complains
about every malformed line, and fails just if there is one.  A run without valid
settings writes nothing.
-/

namespace CommandLine

namespace Arguments

/-- Valid settings: those that are loaded, with what the command line says itself. -/
inductive Configures (arguments : Arguments) (files : Files) : Config → Prop where
  | intro
      {loaded : Config}
      (loads : arguments.fileConfig files = .ok loaded)
      (isValid : (arguments.override loaded).check = .ok ()) :
      Configures arguments files (arguments.override loaded)

/-- The lines of a run, from each of the places that they can come from. -/
inductive Supplies
    (arguments : Arguments)
    (input : String)
    (files : Files) :
    List String → Prop where
  | words
      (given : arguments.messages ≠ []) :
      Supplies arguments input files arguments.messages
  | file
      {path text : String}
      (noneGiven : arguments.messages = [])
      (isNamed : arguments.file = some path)
      (reads : files path = .ok text) :
      Supplies arguments input files (Text.lines text)
  | standardInput
      (noneGiven : arguments.messages = [])
      (noneNamed : arguments.file = none) :
      Supplies arguments input files (Text.lines input)

section Preparing

variable {arguments : Arguments} {input : String} {files : Files}

theorem configOf_of_loads
    {loaded : Config}
    (loads : arguments.fileConfig files = .ok loaded) :
    arguments.configOf files =
      ((arguments.override loaded).check.mapError .invalidConfig).map fun _ =>
        arguments.override loaded := by
  rw [configOf, loads]
  rfl

theorem configOf_eq_ok_iff
    {config : Config} :
    arguments.configOf files = .ok config ↔ arguments.Configures files config := by
  constructor
  · intro found
    cases loads : arguments.fileConfig files with
    | error obstacle =>
        rw [configOf, loads] at found
        cases found
    | ok loaded =>
        rw [configOf_of_loads loads] at found
        cases isValid : (arguments.override loaded).check with
        | error fault =>
            rw [isValid] at found
            cases found
        | ok _ =>
            rw [isValid] at found
            cases found
            exact .intro loads isValid
  · rintro ⟨loads, isValid⟩
    rw [configOf_of_loads loads, isValid]
    rfl

theorem Supplies.linesOf_eq
    {lines : List String}
    (supplies : arguments.Supplies input files lines) :
    arguments.linesOf input files = .ok lines := by
  cases supplies with
  | words given =>
      cases messages_eq : arguments.messages with
      | nil =>
          exact absurd messages_eq given
      | cons message others =>
          simp only [linesOf, source, messages_eq]
  | file noneGiven isNamed reads =>
      simp only [linesOf, source, noneGiven, isNamed, reads, Except.map, Except.mapError]
  | standardInput noneGiven noneNamed =>
      simp only [linesOf, source, noneGiven, noneNamed]

end Preparing

end Arguments

/-- A command line that is followed, with the lines that it decodes and how. -/
def RunsOver
    (words : List String)
    (input : String)
    (files : Files)
    (direction : Direction)
    (config : Config)
    (lines : List String) :
    Prop :=
  ∃ arguments,
    Arguments.read words = .ok (.run arguments) ∧
      arguments.directionOf = direction ∧
      arguments.Configures files config ∧
      arguments.Supplies input files lines

/-- A command line that is followed, without valid settings. -/
def IsUnconfigured (words : List String) (files : Files) : Prop :=
  ∃ arguments,
    Arguments.read words = .ok (.run arguments) ∧
      ∀ config, ¬ arguments.Configures files config

/-- A report says of lines what they hold. -/
structure Report.Covers
    (report : Report)
    (direction : Direction)
    (config : Config)
    (lines : List String) : Prop where
  output_eq :
    report.output =
      joinMessages ((messagesOf lines).map fun octets => (decode octets direction config).text)
  errors_eq :
    ∃ badLines,
      ListsMalformed lines badLines ∧
        report.errors = complaintText (badLines.map BadLine.message ++ closing badLines)
  exitCode_iff : report.exitCode = 0 ↔ ∀ line ∈ lines, ¬ HexLine.IsMalformed line

/-- Lines with one more among them, which holds no message. -/
inductive GainsLine : List String → List String → Prop where
  | intro
      {line : String}
      (before after : List String)
      (holdsNone : HexLine.IsBlank line ∨ HexLine.IsComment line ∨ HexLine.IsMalformed line) :
      GainsLine (before ++ after) (before ++ line :: after)

theorem GainsLine.messagesOf_eq
    {lines others : List String}
    (gains : GainsLine lines others) :
    messagesOf others = messagesOf lines := by
  cases gains with
  | intro before after holdsNone =>
      simp only [messagesOf, List.filterMap_append, List.filterMap_cons,
        HexLine.message?_eq_none_iff.mpr holdsNone]

theorem messagesOf_eq_of_eqvGen
    {lines others : List String}
    (differ : Relation.EqvGen GainsLine lines others) :
    messagesOf others = messagesOf lines := by
  induction differ with
  | rel lines others gains =>
      exact gains.messagesOf_eq
  | refl lines =>
      rfl
  | symm lines others _ inductionHypothesis =>
      exact inductionHypothesis.symm
  | trans lines between others _ _ firstHypothesis secondHypothesis =>
      exact secondHypothesis.trans firstHypothesis

section Reports

variable {words : List String} {input : String} {files : Files}

theorem RunsOver.run_eq
    {direction : Direction}
    {config : Config}
    {lines : List String}
    (runs : RunsOver words input files direction config lines) :
    run words input files =
      let outcome := decodeLines direction config lines
      ⟨outcome.exitCode, outcome.output, complaintText outcome.complaints⟩ := by
  obtain ⟨arguments, followed, rfl, configures, supplies⟩ := runs
  have prepared : prepare arguments input files = .ok (config, lines) := by
    rw [prepare, Arguments.configOf_eq_ok_iff.mpr configures, supplies.linesOf_eq]
    rfl
  simp only [run, followed, runRequest, runArguments, prepared]

theorem RunsOver.covers
    {direction : Direction}
    {config : Config}
    {lines : List String}
    (runs : RunsOver words input files direction config lines) :
    (run words input files).Covers direction config lines := by
  rw [runs.run_eq, decodeLines_eq_run,
    (LineLoop.run_isBehind direction config lines).outcome_eq]
  constructor
  · rfl
  · exact ⟨_, badLinesFrom_listsMalformed lines, rfl⟩
  · rw [← @badLinesFrom_eq_nil_iff 1]
    simp

theorem IsUnconfigured.writesNothing
    (unconfigured : IsUnconfigured words files) :
    (run words input files).output = "" ∧ (run words input files).exitCode = 1 := by
  obtain ⟨arguments, followed, none_configures⟩ := unconfigured
  cases configOf_eq : arguments.configOf files with
  | ok config =>
      exact absurd (Arguments.configOf_eq_ok_iff.mp configOf_eq) (none_configures config)
  | error obstacle =>
      have stopped : prepare arguments input files = .error obstacle := by
        rw [prepare, configOf_eq]
        rfl
      simp only [run, followed, runRequest, runArguments, stopped, and_self]

end Reports

end CommandLine

end LteNas
