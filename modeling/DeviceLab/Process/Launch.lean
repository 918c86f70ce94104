import DeviceLab.Text.Blank
import DeviceLab.Host.IoError

/-!
# Launching and ending processes

* `LaunchSpec`: what to launch, and `LaunchSpec.commandLine`, which shows it as a shell would take
  it.
* `ExitOutcome`: how a process ended.
* `LaunchError` and `SupervisorError`: what can go wrong with a supervised process.
-/

namespace DeviceLab

/-- The handle of a supervised process. -/
structure ProcessId where
  number : Nat
  deriving DecidableEq, Repr, Inhabited

def ProcessId.text (id : ProcessId) : String := s!"proc-{id.number}"

/-- How a process ended. -/
inductive ExitOutcome where
  | exited (code : Int)
  | signaled (name : String)
  deriving DecidableEq, Repr, Inhabited

namespace ExitOutcome

/-- The exit code, unless a signal ended the process. -/
def code : ExitOutcome → Option Int
  | .exited code => some code
  | .signaled _ => none

/-- Whether the process ended with exit code zero. -/
def success (o : ExitOutcome) : Bool := o == .exited 0

/-- The outcome in words. -/
def text : ExitOutcome → String
  | .exited code => s!"exit {code}"
  | .signaled name => s!"killed by {name}"

end ExitOutcome

/-- What to launch. -/
structure LaunchSpec where
  /-- The name of the process for readers. -/
  label : String
  argv : List String
  cwd : Option String := none
  /-- Variables that are added to those of the harness. -/
  env : List (String × String) := []
  /-- A part of the names of processes that are swept once this one has ended. -/
  strayPattern : Option String := none
  deriving DecidableEq, Repr

namespace LaunchSpec

open Text

def needsQuotes (arg : List Char) : Bool :=
  arg.isEmpty || arg.any fun c => isBlank c || c == '"' || c == '\''

/-- The inside of quotes: an apostrophe ends them, stands escaped, and begins them anew. -/
def escapeQuotes : List Char → List Char
  | [] => []
  | c :: rest => if c = '\'' then '\'' :: '\\' :: '\'' :: '\'' :: escapeQuotes rest
                 else c :: escapeQuotes rest

/-- An argument, in quotes if it needs them. -/
def shownArgument (arg : List Char) : List Char :=
  if needsQuotes arg then '\'' :: (escapeQuotes arg ++ ['\'']) else arg

/-- Arguments with a blank between them. -/
def shownArguments : List (List Char) → List Char
  | [] => []
  | [arg] => shownArgument arg
  | arg :: rest => shownArgument arg ++ ' ' :: shownArguments rest

/-- The command line as a shell would take it. -/
def commandLine (spec : LaunchSpec) : String :=
  String.ofList (shownArguments (spec.argv.map String.toList))

end LaunchSpec

/-- Why a process was not started. -/
inductive LaunchError where
  | emptyCommand (label : String)
  | spawn (label program : String) (cause : IoError)
  /-- The file for the output could not be made. -/
  | capture (label : String) (cause : IoError)
  deriving DecidableEq, Repr

def LaunchError.message : LaunchError → String
  | .emptyCommand label => s!"{label}: empty command line"
  | .spawn label program cause => s!"{label}: failed to spawn '{program}': {cause.message}"
  | .capture label cause => s!"{label}: failed to create capture file: {cause.message}"

/-- What can go wrong with a supervised process. -/
inductive SupervisorError where
  | launch (cause : LaunchError)
  | unknownProcess (id : ProcessId)
  | io (cause : IoError)
  deriving DecidableEq, Repr

def SupervisorError.message : SupervisorError → String
  | .launch cause => cause.message
  | .unknownProcess id => s!"unknown process {id.text}"
  | .io cause => s!"I/O error: {cause.message}"

end DeviceLab
