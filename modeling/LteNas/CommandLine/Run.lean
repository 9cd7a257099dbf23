import LteNas.CommandLine.Arguments
import LteNas.CommandLine.FileTree
import LteNas.CommandLine.HexLine
import LteNas.Config.Yaml
import LteNas.Decode
import LteNas.Message.Render
import LteNas.Text.Lines

namespace LteNas

/-!
# Runs of the command line

A run reads settings, takes messages from the arguments, a file or standard
input, one a line, and writes each decoded message.  A line that holds no
message is complained about and the run goes on.
-/

namespace CommandLine

/-- What ends a run before its messages. -/
inductive Obstacle where
  | unreadableConfig (path : String) (fault : FileFault)
  | malformedConfig (path : String)
  | invalidConfig (fault : ConfigFault)
  | unreadableInput (path : String) (fault : FileFault)
  deriving Repr, DecidableEq

/--
The text of an obstacle.  What the system says of a settings file is said twice.
A directory can be opened as the input and only then not be read.
-/
def Obstacle.message : Obstacle → String
  | .unreadableConfig path fault =>
      s!"Failed to load configuration from {path}: I/O error: {fault.message}: {fault.message}"
  | .malformedConfig path =>
      s!"Failed to load configuration from {path}: YAML parse error"
  | .invalidConfig fault =>
      s!"Invalid decoder configuration: {fault.message}"
  | .unreadableInput _ .isDirectory =>
      s!"Failed to read input: {FileFault.isDirectory.message}"
  | .unreadableInput path fault =>
      s!"Failed to open {path}: {fault.message}"

/-! ## Settings -/

namespace Arguments

/-- The settings of the file that is named, or the standard ones. -/
def fileConfig (arguments : Arguments) (files : Files) : Except Obstacle Config :=
  match arguments.config with
  | none =>
      .ok .standard
  | some path =>
      match files path with
      | .error fault =>
          .error (.unreadableConfig path fault)
      | .ok text =>
          match Config.ofYaml? text with
          | some config => .ok config
          | none => .error (.malformedConfig path)

/-- Settings with what the command line says itself. -/
def override (arguments : Arguments) (config : Config) : Config :=
  { config with
    keyText := arguments.key.or config.keyText
    dissectPlain := config.dissectPlain || arguments.plain
    nullDecipher := config.nullDecipher || arguments.nullDecipher }

def configOf (arguments : Arguments) (files : Files) : Except Obstacle Config := do
  let config ← arguments.fileConfig files
  let config := arguments.override config
  (config.check.mapError .invalidConfig).map fun _ => config

/-! ## Messages -/

/-- Where the lines of a run come from. -/
inductive Source where
  | words (lines : List String)
  | file (path : String)
  | standardInput
  deriving Repr, DecidableEq

/-- The source of the lines: arguments, else a file, else standard input. -/
def source (arguments : Arguments) : Source :=
  match arguments.messages, arguments.file with
  | [], none => .standardInput
  | [], some path => .file path
  | lines, _ => .words lines

def linesOf
    (arguments : Arguments)
    (input : String)
    (files : Files) :
    Except Obstacle (List String) :=
  match arguments.source with
  | .words lines =>
      .ok lines
  | .file path =>
      ((files path).map Text.lines).mapError (.unreadableInput path)
  | .standardInput =>
      .ok (Text.lines input)

def directionOf (arguments : Arguments) : Direction :=
  arguments.direction.getD .unknown

/-- The files that a run may read. -/
def paths (arguments : Arguments) : List String :=
  arguments.config.toList ++ arguments.file.toList

end Arguments

/-! ## Output -/

/-- What a run writes and how it ends. -/
structure Outcome where
  exitCode : Nat
  output : String
  /-- The complaints, one or more lines each. -/
  complaints : List String
  deriving Repr, DecidableEq

/-- A line without a message: its number, counted from one, and why it has none. -/
structure BadLine where
  number : Nat
  fault : HexLineFault
  deriving Repr, DecidableEq

def BadLine.message (bad : BadLine) : String :=
  s!"line {bad.number}: {bad.fault.message}"

/-- The messages of lines, and the bad lines; silent lines are neither. -/
structure LineMessages where
  messages : List (List UInt8)
  badLines : List BadLine
  deriving Repr, DecidableEq

def readLines (number : Nat) : List String → LineMessages
  | [] =>
      ⟨[], []⟩
  | line :: lines =>
      let others := readLines (number + 1) lines
      match HexLine.read line with
      | .ok none =>
          others
      | .ok (some octets) =>
          { others with messages := octets :: others.messages }
      | .error fault =>
          { others with badLines := ⟨number, fault⟩ :: others.badLines }

/-- Texts of messages, each ended by a line feed, with an empty line between them. -/
def joinMessages (texts : List String) : String :=
  "\n".intercalate (texts.map (· ++ "\n"))

/-- The complaint at the end of a run with bad lines. -/
def summary (badLines : Nat) : String :=
  s!"{badLines} input line(s) could not be parsed"

def decodeLines (direction : Direction) (config : Config) (lines : List String) : Outcome :=
  let read := readLines 1 lines
  let texts := read.messages.map fun octets => (decode octets direction config).text
  let complaints := read.badLines.map BadLine.message
  if complaints.isEmpty then
    ⟨0, joinMessages texts, []⟩
  else
    ⟨1, joinMessages texts, complaints ++ [summary complaints.length]⟩

/-- The settings and the lines of a run, or the first obstacle. -/
def prepare
    (arguments : Arguments)
    (input : String)
    (files : Files) :
    Except Obstacle (Config × List String) := do
  let config ← arguments.configOf files
  let lines ← arguments.linesOf input files
  return (config, lines)

def runArguments (arguments : Arguments) (input : String) (files : Files) : Outcome :=
  match prepare arguments input files with
  | .ok (config, lines) => decodeLines arguments.directionOf config lines
  | .error obstacle => ⟨1, "", [obstacle.message]⟩

def usage : String :=
  "Usage: nas-eps-decode [OPTIONS] [HEX]...\n"

def versionText : String :=
  "nas-eps-decode 0.1.0\n"

def runRequest (request : Request) (input : String) (files : Files) : Outcome :=
  match request with
  | .run arguments => runArguments arguments input files
  | .help => ⟨0, usage, []⟩
  | .version => ⟨0, versionText, []⟩

/-- The outcome of a command line that cannot be followed. -/
def usageExit : Nat :=
  2

def complaintMark : String :=
  "ERROR: "

/-- The text of complaints, each behind its mark. -/
def complaintText (complaints : List String) : String :=
  String.join (complaints.map fun complaint => complaintMark ++ complaint ++ "\n")

/-- What a command line writes to standard output and to standard error, and its exit code. -/
structure Report where
  exitCode : Nat
  output : String
  errors : String
  deriving Repr, DecidableEq

def run (words : List String) (input : String) (files : Files) : Report :=
  match Arguments.read words with
  | .ok request =>
      let outcome := runRequest request input files
      ⟨outcome.exitCode, outcome.output, complaintText outcome.complaints⟩
  | .error fault =>
      ⟨usageExit, "", s!"error: {fault.message}\n\n{usage}"⟩

end CommandLine

end LteNas
