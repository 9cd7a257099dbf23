import LteNas.CommandLine.Run

/-!
# The command

Reads the files and the standard input that a command line asks for, runs it, and
writes its report.
-/

namespace LteNas.Command

/-- The system numbers this error, whichever sign the number has. -/
def hasCode (number : Nat) (code : UInt32) : Bool :=
  code == UInt32.ofNat number || code == 0 - UInt32.ofNat number

/-- What the system says of a file. -/
def fileFault (problem : IO.Error) : CommandLine.FileFault :=
  match problem with
  | .noFileOrDirectory _ _ _ => .missing
  | .permissionDenied _ _ _ => .denied
  | .inappropriateType _ code _ => if hasCode 21 code then .isDirectory else .notDirectory
  | .invalidArgument _ code details => if hasCode 36 code then .nameTooLong else .other details
  | other => .other (toString other)

/-- The content of a file, or why it cannot be read. -/
def readFile (path : String) : IO (Except CommandLine.FileFault String) := do
  try
    return .ok (← IO.FS.readFile path)
  catch problem =>
    return .error (fileFault problem)

def readFiles (paths : List String) : IO CommandLine.Files := do
  let contents ← paths.mapM fun path => do return (path, ← readFile path)
  return fun path => (contents.lookup path).getD (.error .missing)

def runArguments? (words : List String) : Option CommandLine.Arguments :=
  match CommandLine.Arguments.read words with
  | .ok (.run arguments) => some arguments
  | _ => none

/-- Standard input, where the lines of a run come from it. -/
def readInput (arguments : CommandLine.Arguments) : IO String := do
  if arguments.source == .standardInput then
    (← IO.getStdin).readToEnd
  else
    return ""

/-- Run a command line on what it asks for. -/
def report (words : List String) : IO CommandLine.Report := do
  match runArguments? words with
  | some arguments =>
      let files ← readFiles arguments.paths
      return CommandLine.run words (← readInput arguments) files
  | none =>
      return CommandLine.run words "" fun _ => .error .missing

end LteNas.Command

/-- Decode the messages that a command line names. -/
def main (words : List String) : IO UInt32 := do
  let report ← LteNas.Command.report words
  (← IO.getStdout).putStr report.output
  (← IO.getStderr).putStr report.errors
  return UInt32.ofNat report.exitCode
