import DeviceLab.Run.Report
import DeviceLab.Run.Startup
import DeviceLab.Run.Suites

/-!
# A whole run

The phases in their order: acquire the devices, start them, install, run the suites, collect, and
stop the devices.  Whatever happens in between, every acquired device is torn down once, and the run
is summed up.

* `RunPlan.ofConfig`: what is fixed before a run, if the configuration is valid.
* `Run.carryOut`: the run up to the end of its devices.
* `Run.sumUpWithin`: the run up to its summary, with at most so many looks at its suites.  There is
  none if a limit of a suite is no duration, or a wait goes beyond the end of the clock; then all
  processes are ended and nothing more is done.
* `Run.startWithin`: the whole run, with as many looks.
* `Run.start`: the whole run with as many looks as the limits of its suites allow for.
-/

namespace DeviceLab

/-- Why a run was not begun. -/
inductive PlanError where
  | config (cause : ConfigError)
  | context (cause : ContextError)
  | duration (cause : DurationError)
  deriving DecidableEq, Repr

/-- Looks the package name up, unless the configuration has one. -/
def Config.findPackageName (host : Host σ) (c : Config) :
    StateM σ (Except ContextError (Option String)) := do
  match c.paths.packageName with
  | some name => return .ok (some name)
  | none =>
    let path := c.packageNameFile
    unless ← host.pathExists path do return .ok none
    match ← (host.readText path).run with
    | .ok text => return (RunContext.packageNameOf path text).map some
    | .error cause => return .error (.packageName path cause)

def RunContext.resolve (host : Host σ) (c : Config) :
    StateM σ (Except ContextError RunContext) := do
  return (← c.findPackageName host).map (RunContext.ofConfig c)

/-- The plan of a configuration on a host. -/
def RunPlan.ofConfig (host : Host σ) (config : Config) :
    StateM σ (Except PlanError RunPlan) := do
  match config.validate with
  | .error cause => return .error (.config cause)
  | .ok () =>
    match ← RunContext.resolve host config with
    | .error cause => return .error (.context cause)
    | .ok context =>
      match config.timing.toTiming, config.buildClassifier with
      | .error cause, _ => return .error (.duration cause)
      | .ok _, .error cause => return .error (.config cause)
      | .ok timing, .ok classifier => return .ok { config, context, timing, classifier }

namespace Run

/-- Enters a phase, unless the run is cancelled. -/
def enter (s : Setup σ β) (target : Phase) : Running σ β Unit := do
  if ← look s.host then stopCancelled
  let machine := (← get).machine
  match machine.transition target with
  | .ok machine =>
    modify fun run => { run with machine, moves := run.moves.push (.entered target) }
  | .error e => throw (.phase (.plain machine.phase .fatal e.message))

/-- The phases up to the collection of the results. -/
def execute (s : Setup σ β) (passes : Nat) : Running σ β Unit := do
  enter s .acquiringDevices
  acquireDevices s
  enter s .devicesStarting
  startDevices s
  enter s .devicesHealthy
  startLogCapture s
  enter s .artifactInstalling
  let blocked ← installArtifacts s
  enter s .suitesRunning
  runSuites s passes blocked
  enter s .resultsCollected

/-- Enters a phase that is not refused even to a cancelled run, if it can follow. -/
def follow {m : Type → Type} [MonadState (Run σ β) m] (target : Phase) : m Unit :=
  modify fun run =>
    match run.machine.transition target with
    | .ok machine => { run with machine, moves := run.moves.push (.entered target) }
    | .error _ => run

/-- Goes through the last phases, unless the run has failed. -/
def followToEnd : StateM (Run σ β) Unit := do
  unless (← get).machine.isFailed do
    follow .devicesStopped
    follow .done

/-- Tears down every acquired device and ends whatever is left. -/
def stopDevices (s : Setup σ β) : StateM (Run σ β) Unit := do
  (← get).indices.forM (performPlain .teardown s.backend.teardown)
  onLab (Lab.terminateAll s.host)
  followToEnd
  addPhase (.plain .devicesStopped .success s!"{(← get).devices.length} device(s) stopped")

/-- A run up to the end of its devices; what stopped it is written down. -/
def carryOut (s : Setup σ β) (passes : Nat) : ExceptT Breakdown (StateM (Run σ β)) Unit := do
  match ← (execute s passes).run with
  | .ok () => pure ()
  | .error (.phase outcome) =>
    addPhase outcome
    follow .failed
  | .error (.broken cause) => throw cause
  stopDevices s

/-- A whole run up to its summary, with at most so many looks at its suites. -/
def sumUpWithin (s : Setup σ β) (passes : Nat) :
    ExceptT Breakdown (StateM (Run σ β)) RunSummary := do
  let started ← onLab (Lab.sys s.host.now)
  tryCatch (carryOut s passes) fun cause => do
    onLab (Lab.close s.host)
    throw cause
  sumUp s started

/-- A whole run with at most so many looks at its suites. -/
def startWithin (s : Setup σ β) (passes : Nat) :
    ExceptT Breakdown (StateM (Run σ β)) RunReport := do
  let summary ← sumUpWithin s passes
  let report ← finish s summary
  onLab (Lab.close s.host)
  return report

def start (s : Setup σ β) : ExceptT DurationError (StateM (Run σ β)) RunReport :=
  ExceptT.adapt Breakdown.asDuration (startWithin s (passLimit s.plan))

/-- From a system and what a backend remembers, a run is summed up in a state. -/
def Sums (s : Setup σ β) (system : σ) (memory : β) (summary : RunSummary) (run : Run σ β) : Prop :=
  ∃ passes, (sumUpWithin s passes).run (.fresh s.plan system memory) = (.ok summary, run)

/-- From a system and what a backend remembers, a run ends with a report and in a state. -/
def Finishes (s : Setup σ β) (system : σ) (memory : β) (report : RunReport) (final : Run σ β) :
    Prop :=
  ∃ passes, (startWithin s passes).run (.fresh s.plan system memory) = (.ok report, final)

end Run

end DeviceLab
