import DeviceLab.Classifier.Json
import DeviceLab.CommandLine.Request
import DeviceLab.Config.Validate
import DeviceLab.Device.Emulator
import DeviceLab.Run.Controller
import DeviceLab.Supervisor.Basic

/-!
# The program

What a request leads to on a host: an exit code, and what is written to the two outputs.

* `LogFilter`: the lines of the log that are shown.
* `Outcome`: how the program ends.
* `Invocation.carryOut`: a request carried out.
* `Stop.outcome`: a command line that makes no request.
* `Outcome.interrupted`: what signals change.
-/

/-!
## Choosing lines of the log

A filter is a list of directives between commas: a level, a target, or a target with a level.  The
most specific directive that concerns the program decides.  One that cannot be read makes the whole
filter the usual one.
-/

namespace DeviceLab.CommandLine

/-- How loud a line is; greater is quieter. -/
def rankOf : LogLevel → Nat
  | .error => 1
  | .warn => 2
  | .info => 3

/-- The lines of the log up to a rank. -/
structure LogFilter where
  /-- The greatest rank that is shown. -/
  rank : Nat
  deriving DecidableEq, Repr

namespace LogFilter

/-- The filter that takes the place of one that cannot be read. -/
def usual : LogFilter := ⟨3⟩

/-- The ranks by the names of levels. -/
def levels : List (String × Nat) :=
  [("off", 0), ("error", 1), ("warn", 2), ("info", 3), ("debug", 4), ("trace", 5), ("0", 0),
    ("1", 1), ("2", 2), ("3", 3), ("4", 4), ("5", 5)]

/-- The rank of a level; capitals do not matter. -/
def rank? (name : String) : Option Nat :=
  (levels.find? fun entry => entry.1 == name.toLower).map (·.2)

def isTargetChar (c : Char) : Bool := c.isAlphanum || c == '_' || c == ':' || c == '-'

/-- A directive: what it is about, and a rank. -/
def directive? (text : String) : Option (String × Nat) :=
  match rank? text, text.splitOn "=" with
  | some rank, _ => some ("", rank)
  | none, [target] => if target.toList.all isTargetChar then some (target, 5) else none
  | none, [target, level] =>
    if !target.isEmpty && target.toList.all isTargetChar then
      if level.isEmpty then some (target, 5) else (rank? level).map fun rank => (target, rank)
    else none
  | _, _ => none

/-- What the lines of the program are about. -/
def target : String := "emu_harness"

/-- The directive that concerns the program most: the one about the longest beginning of its name,
and the last one of these. -/
def deciding (directives : List (String × Nat)) : Option (String × Nat) :=
  (directives.filter fun d => d.1.isPrefixOf target).foldl (fun best d =>
    match best with
    | some b => if b.1.length ≤ d.1.length then some d else best
    | none => some d) none

/-- The filter that a text describes. -/
def ofText (text : String) : LogFilter :=
  match ((text.splitOn ",").filter (!·.isEmpty)).mapM directive? with
  | none => usual
  | some [] => ⟨1⟩
  | some directives => ⟨((deciding directives).map (·.2)).getD 0⟩

/-- The lines of a journal that a filter shows. -/
def shown (filter : LogFilter) (journal : List Event) : String :=
  String.join ((journal.filterMap Event.line?).map fun (level, message) =>
    if rankOf level ≤ filter.rank then s!"{level.name} {message}\n" else "")

end LogFilter

end DeviceLab.CommandLine

/-! ## Requests carried out -/

namespace DeviceLab.CommandLine

/-- How the program ends. -/
structure Outcome where
  code : Int := 0
  output : String := ""
  errors : String := ""
  deriving DecidableEq, Repr

namespace Outcome

/-- The exit code of a run that could not take place. -/
def exceptionCode : Nat := CiStatus.exception.exitCode

/-- An end without a result. -/
def refused (title message : String) : Outcome :=
  { code := exceptionCode, errors := s!"{title}: {message}\n" }

/-- A configuration that is not in order. -/
def badConfig (message : String) : Outcome := refused "Configuration error" message

/-- An end in the middle of things. -/
def aborted (cause : DurationError) : Outcome := { code := 101, errors := cause.message ++ "\n" }

/-- What is written when the first signal comes. -/
def interruption : String :=
  "\nInterrupted: stopping suites and emulators (signal again to exit now)\n"

/-- What is written when the second signal comes. -/
def forcedExit (killed : Nat) : String :=
  s!"\nInterrupted twice, killed {killed} process group(s), exiting\n"

/-- The end of a run during which signals came.  After the second one, which killed some process
groups, the run has nothing more to say. -/
def interrupted (o : Outcome) (received : Nat) (killed : Option Nat) : Outcome :=
  if received = 0 then o
  else
    match killed with
    | none => { o with errors := interruption ++ o.errors }
    | some n =>
      { code := exceptionCode, errors := interruption ++ forcedExit n }

end Outcome

/-- A step of a request, which may end the program. -/
abbrev Performing (σ : Type) := ExceptT Outcome (StateM σ)

/-- Goes on with a result; an error ends the program. -/
def orEnd (outcome : ε → Outcome) (r : Except ε α) : Performing σ α :=
  match r with
  | .ok a => return a
  | .error e => throw (outcome e)

/-- The configuration in a file, with other suites if there are any. -/
def loadConfig (host : Host σ) (path : String) (suites : List String) : Performing σ Config := do
  let bad (e : ConfigError) := Outcome.badConfig e.message
  let config ← orEnd bad (← Config.load host path)
  if suites.isEmpty then return config
  let (config, accepted) := config.selectSuites suites
  orEnd bad accepted
  return config

def resolveContext (host : Host σ) (config : Config) : Performing σ RunContext := do
  orEnd (fun e => Outcome.badConfig e.message) (← RunContext.resolve host config)

/-! ### The commands -/

/-- The line on a suite in the report of a run. -/
def suiteLine (suite : SuiteSummary) : String :=
  s!"  {padded 24 suite.suite} {suite.verdict.name} {suite.message.getD default}\n"

/-- The report of a run. -/
def reportText (report : RunReport) : String :=
  let line (title : String) (path : Option String) : String :=
    (path.map fun path => s!"{title}: {path}\n").getD ""
  report.summary.humanSummary ++ "\n" ++ String.join (report.summary.suites.map suiteLine) ++
    line "Summary" report.summaryPath ++ line "Logs" report.logsDir

/-- Carries out a run on emulators. -/
def performRun (host : Host σ) (path : String) (suites : List String) (filter : LogFilter) :
    Performing σ Outcome := do
  let config ← loadConfig host path suites
  let plan ← orEnd (fun
    | .config e => .refused "Error" e.message
    | .context e => .refused "Error" e.message
    | .duration e => .aborted e) (← RunPlan.ofConfig host config)
  let backend := (EmulatorControl.ofConfig config plan.context plan.timing).backend host
  let (r, run) := (Run.start ⟨host, backend, plan⟩).run (Run.fresh plan (← get) ())
  set run.lab.system
  let report ← orEnd Outcome.aborted r
  return { code := report.summary.exitCode, output := reportText report
           errors := filter.shown run.lab.journal }

/-- The line on a suite and its device in the description of a configuration. -/
def bindingLine (config : Config) (suite : String) (device : DeviceSlot) : String :=
  let category := ((config.suite? suite).map SuiteSpec.category).getD "?"
  s!"  {suite} ({category}) -> {device.name} [console {device.consolePort}]\n"

/-- The description of a configuration. -/
def configText (path : String) (config : Config) : String :=
  let packages := ", ".intercalate (config.packages.map (·.1))
  s!"Configuration valid: {path}\n\n  Devices: {config.devices.length}\n" ++
    String.join ((config.selected.zip config.boundDevices).map fun (suite, device) =>
      bindingLine config suite device) ++
    if config.packages.isEmpty then "" else s!"  Packages: {packages}\n"

/-- Checks a configuration. -/
def performVerify (host : Host σ) (path : String) : Performing σ Outcome := do
  let config ← loadConfig host path []
  discard <| resolveContext host config
  return { output := configText path config }

/-- Adds the command of a suite to what is shown, or what is wrong with it. -/
def showCommand (dispatcher : Dispatcher) (o : Outcome) (suite : String) (device : DeviceSlot) :
    Outcome :=
  match dispatcher.commandFor suite device with
  | .ok command => { o with
      output := o.output ++ s!"# {suite} on {device.name} (cwd {command.cwd})\n{command.shown}\n" }
  | .error e => { o with
      code := Outcome.exceptionCode, errors := o.errors ++ s!"{suite}: {e.message}\n" }

/-- Shows the command of each suite. -/
def performCommands (host : Host σ) (path : String) (suites : List String) :
    Performing σ Outcome := do
  let config ← loadConfig host path suites
  let context ← resolveContext host config
  discard <| orEnd Outcome.aborted config.timing.toTiming
  return (config.selected.zip config.boundDevices).foldl (fun o (suite, device) =>
    showCommand ⟨config, context⟩ o suite device) {}

/-- Judges the output of a suite. -/
def performClassify (host : Host σ) (category : String) (exitCode : Option Int) (suite : String)
    (path : Option String) (log : String) : Performing σ Outcome := do
  let classifier ← match path with
    | none => pure ({ policy := {} } : Classifier)
    | some path => do
      let config ← loadConfig host path []
      orEnd (fun e => Outcome.badConfig e.message) config.buildClassifier
  let bytes ← orEnd (fun e => .refused s!"Error reading {log}" e.message)
    (← (host.readFile log).run)
  let c := classifier.classify category (Text.Utf8.decodeLossy bytes) exitCode
  return { code := c.severity.ciStatus.exitCode, output := c.toJson.pretty ++ "\n"
           errors := c.summaryLine suite ++ "\n" }

/-- Carries out a request. -/
def Request.perform (host : Host σ) (filter : LogFilter) : Request → Performing σ Outcome
  | .run config suites => performRun host config suites filter
  | .verify config => performVerify host config
  | .commands config suites => performCommands host config suites
  | .classify category exitCode suite config log =>
    performClassify host category exitCode suite config log

/-- Carries out a request to its end. -/
def Invocation.carryOut (host : Host σ) (i : Invocation) : StateM σ Outcome := do
  match ← (i.request.perform host (.ofText i.logLevel)).run with
  | .ok outcome => return outcome
  | .error outcome => return outcome

/-- What a command line that makes no request leads to. -/
def Stop.outcome : Stop → Outcome
  | .help command => { output := grammar.helpText command }
  | .version => { output := grammar.versionText }
  | .misuse command cause => { code := 2, errors := grammar.misuseText command cause }

/-- Carries out a command line. -/
def perform (host : Host σ) (args : List String) : StateM σ Outcome :=
  match Invocation.parse args with
  | .ok invocation => invocation.carryOut host
  | .error stop => return stop.outcome

end DeviceLab.CommandLine
