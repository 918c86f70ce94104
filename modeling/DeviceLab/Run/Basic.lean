import DeviceLab.Context
import DeviceLab.Device.Backend
import DeviceLab.Dispatch.SuiteRun
import DeviceLab.Summary.Basic

/-!
# A run and its state

* `RunPlan`: what is fixed before a run starts.
* `Move`: what a run does, step by step, out of the backend's reach.
* `Run`: how far the run has come, with its moves; `Run.calls` are those that went to the backend.
* `Run.look`: whether the run is to be cancelled.
* `Run.perform`: a backend step on one of the devices.
* `Run.sleep`: a wait that ends when the run is cancelled.
-/

namespace DeviceLab

/-- What is fixed before a run starts. -/
structure RunPlan where
  config : Config
  context : RunContext
  timing : Timing
  classifier : Classifier

namespace RunPlan

/-- What commands are made from. -/
def dispatcher (p : RunPlan) : Dispatcher := ⟨p.config, p.context⟩

end RunPlan

/-- A plan with the host and the backend that carry it out. -/
structure Setup (σ β : Type) where
  host : Host σ
  backend : Backend σ β
  plan : RunPlan

/-- Why a suite was not started. -/
inductive TriggerError where
  | command (cause : CommandError)
  | launch (cause : LaunchError)
  | duration (cause : DurationError)
  deriving DecidableEq, Repr

/-- Something that a run does. -/
inductive Move where
  /-- It looks whether it is to be cancelled. -/
  | looked (cancelled : Bool)
  | entered (phase : Phase)
  /-- It asks the backend for a step. -/
  | called (call : BackendCall)
  /-- It begins an attempt to start all devices. -/
  | attempted (attempt : Nat)
  /-- It launches an attempt of a suite. -/
  | launched (suite : String) (attempt : Nat) (process : ProcessId)
  /-- It fails to start an attempt of a suite. -/
  | refused (suite : String) (attempt : Nat) (cause : TriggerError)
  /-- It begins to look at the active suites. -/
  | polled
  /-- It judges an attempt that has ended, by its output. -/
  | ended (run : SuiteRun) (judgement : Classification) (output : String)
  /-- It gives up an attempt that cannot be followed any more. -/
  | lost (run : SuiteRun) (cause : SupervisorError)
  /-- It is refused a step of an attempt. -/
  | misstep (cause : SuiteTransitionError)
  /-- It has ended an attempt because it is cancelled itself. -/
  | cancelled (run : SuiteRun) (ending : Except SupervisorError ExitOutcome)
  deriving Repr

/-- The call of a move that goes to the backend. -/
def Move.call? : Move → Option BackendCall
  | .called call => some call
  | _ => none

/-- How far a run has come. -/
structure Run (σ β : Type) where
  lab : Lab σ
  /-- What the backend remembers. -/
  memory : β
  machine : Lifecycle := {}
  /-- The devices that have been acquired; each stands at its index. -/
  devices : List Device := []
  phases : List PhaseOutcome := []
  results : List SuiteSummary := []
  /-- The names of the files that are to keep the output of suites. -/
  logNames : List (ProcessId × String) := []
  /-- The process of the last attempt of each recorded suite, by the place of its record. -/
  resultLogs : List (Nat × ProcessId) := []
  /-- What the run has done, in order. -/
  moves : Array Move := #[]

/-- A run that has not begun, on a system and with what a backend remembers. -/
def Run.fresh (plan : RunPlan) (system : σ) (memory : β) : Run σ β :=
  { lab := { system, supervisor := { grace := plan.timing.terminateGrace } }, memory }

/-- Why a run ends without a report. -/
inductive Breakdown where
  /-- A limit of a suite is no duration, or a wait goes beyond the end of the clock. -/
  | duration (cause : DurationError)
  /-- Suites are still active after as many looks as were allowed. -/
  | unfinished
  deriving DecidableEq, Repr

/-- The time that a run could not wait for. -/
def Breakdown.asDuration : Breakdown → DurationError
  | .duration cause => cause
  | .unfinished => .endless

/-- Why a run stops before its end. -/
inductive Stop where
  | phase (outcome : PhaseOutcome)
  | broken (cause : Breakdown)
  deriving DecidableEq, Repr

/-- A part of a run that may stop it. -/
abbrev Running (σ β : Type) := ExceptT Stop (StateM (Run σ β))

namespace Run

/-- The backend calls so far. -/
def calls (run : Run σ β) : List BackendCall := run.moves.toList.filterMap Move.call?

variable {m : Type → Type} [MonadState (Run σ β) m]

/-- Carries out an operation of the lab. -/
def onLab (operation : StateM (Lab σ) α) : m α :=
  modifyGet fun run =>
    let r := operation run.lab
    (r.1, { run with lab := r.2 })

/-- Writes down a move. -/
def addMove (move : Move) : m Unit :=
  modify fun run => { run with moves := run.moves.push move }

/-- Looks whether the run is to be cancelled. -/
def look (host : Host σ) : m Bool :=
  modifyGet fun run =>
    let r := host.cancelRequested run.lab.system
    (r.1, { run with
      lab := { run.lab with system := r.2 }
      moves := run.moves.push (.looked r.1) })

/-- Writes down the outcome of a phase. -/
def addPhase (outcome : PhaseOutcome) : m Unit :=
  modify fun run => { run with phases := run.phases ++ [outcome] }

/-- Writes down what became of a suite that was never launched. -/
def addResult (result : SuiteSummary) : m Unit :=
  modify fun run => { run with results := run.results ++ [result] }

/-- Writes down what became of a suite, and the process of its last attempt. -/
def addResultOf (id : ProcessId) (result : SuiteSummary) : m Unit :=
  modify fun run => { run with
    results := run.results ++ [result]
    resultLogs := run.resultLogs ++ [(run.results.length, id)] }

/-- Has the backend take a step with the device at an index. -/
def perform (kind : CallKind) (package : Option String) (ending : α → CallResult)
    (step : StateM (Station σ β) α) (index : Nat) : m (Option α) :=
  modifyGet fun run =>
    match run.devices[index]? with
    | none => (none, run)
    | some device =>
      let r := step ⟨device, run.memory, run.lab⟩
      (some r.1, { run with
        devices := run.devices.set index r.2.device
        memory := r.2.memory
        lab := r.2.lab
        moves := run.moves.push (.called
          { kind, index, device := device.name, package, result := ending r.1 }) })

/-- A step that cannot fail. -/
def performPlain (kind : CallKind) (step : StateM (Station σ β) Unit) (index : Nat) :
    StateM (Run σ β) Unit := do
  discard <| perform kind none (fun _ => .done) step index

/-- A step that may fail. -/
def performStep (kind : CallKind) (step : DeviceStep σ β DeviceError Unit) (index : Nat) :
    ExceptT DeviceError (StateM (Run σ β)) Unit := do
  match ← perform kind none .ofDevice step.run index with
  | some (.error e) => throw e
  | _ => return

/-- The places of the devices. -/
def indices (run : Run σ β) : List Nat := List.range run.devices.length

def stopCancelled : Running σ β α := do
  throw (.phase (.failure (← get).machine.phase .cancelled "run cancelled"))

/-- The longest time for which the wish to cancel is not looked at. -/
def sleepSlice : Duration := .ofMillis 100

/-- Waits until an instant; gives whether the run has been cancelled. -/
def sleepUntil (host : Host σ) (deadline : Instant) : Nat → StateM (Run σ β) Bool
  | 0 => look host
  | slices + 1 => do
    if ← look host then return true
    let left := deadline.since (← onLab (Lab.sys host.now))
    if left.nanos = 0 then return false
    onLab (Lab.pause host ⟨min left.nanos sleepSlice.nanos⟩)
    sleepUntil host deadline slices

/-- Waits for a time; gives whether the run was cancelled before or meanwhile.  When the wait is to
end is worked out before the first look. -/
def sleep (host : Host σ) (d : Duration) : Running σ β Bool := do
  let start ← onLab (Lab.sys host.now)
  match start.after d with
  | .error cause => throw (.broken (.duration cause))
  | .ok deadline => ExceptT.lift (sleepUntil host deadline (d.nanos / sleepSlice.nanos + 2))

end Run

end DeviceLab
