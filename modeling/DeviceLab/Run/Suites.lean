import DeviceLab.Run.Basic

/-!
# Running the suites

All suites are launched at once, each on its own device, and then looked at again and again until
each has ended.  A suite that passes a limit is ended; one that asks for it is run again as often as
it may; a suite that cannot be followed any more is ended and recorded as such.

* `Run.trigger`: launches one attempt of a suite.
* `Run.pollEach`: one look at every active suite.
* `Run.runSuites`: the phase.  It is carried out with a limit to the number of looks; a run that
  reaches the limit is unfinished and not cancelled.
-/

namespace DeviceLab

namespace Run

/-- Launches an attempt of a suite on the device at an index. -/
def launchSuite (s : Setup σ β) (suite : String) (index attempt : Nat) :
    ExceptT TriggerError (StateM (Run σ β)) SuiteRun := do
  match (← get).devices[index]? with
  | none => throw (.command (.unknownSuite suite))
  | some device =>
    let (spec, _) ← ExceptT.adapt TriggerError.command
      (ExceptT.mk (pure (s.plan.dispatcher.suite suite)))
    let command ← ExceptT.adapt TriggerError.command
      (ExceptT.mk (pure (s.plan.dispatcher.commandFor suite device.slot)))
    match ← onLab (Lab.launch s.host (command.launchSpec s!"{suite}@{device.name}")).run with
    | .error cause => throw (.launch cause)
    | .ok process =>
      addMove (.launched suite attempt process)
      match s.plan.timing.suite.withOverrides spec.timeoutSecs spec.idleTimeoutSecs with
      | .error cause => throw (.duration cause)
      | .ok limits =>
        let run : SuiteRun :=
          { suite, category := spec.category, command, deviceIndex := index
            device := device.name, process, attempt
            watch := .startedAt limits (← onLab (Lab.sys s.host.now)) }
        modify fun r => { r with logNames := r.logNames ++ [(process, run.logFileName)] }
        return run

/-- Starts an attempt of a suite on the device at an index. -/
def trigger (s : Setup σ β) (suite : String) (index attempt : Nat) :
    ExceptT TriggerError (StateM (Run σ β)) SuiteRun := do
  tryCatch (launchSuite s suite index attempt) fun cause => do
    addMove (.refused suite attempt cause)
    throw cause

/-- The time since an attempt was launched, in milliseconds. -/
def elapsedMs (s : Setup σ β) (run : SuiteRun) : StateM (Run σ β) Nat := do
  return ((← onLab (Lab.sys s.host.now)).since run.watch.start).millis

/-- Writes down that a step of an attempt is refused; the attempt then stays as it is. -/
def noteMisstep (step : Except SuiteTransitionError SuiteRun) : StateM (Run σ β) Unit :=
  match step with
  | .ok _ => return
  | .error cause => addMove (.misstep cause)

/-- Ends an attempt whose run is cancelled. -/
def cancelRun (s : Setup σ β) (run : SuiteRun) : StateM (Run σ β) Unit := do
  let ending ← onLab (Lab.terminate s.host run.process).run
  noteMisstep (run.markExited (ending.toOption.getD Lab.unknownOutcome) none)
  addMove (.cancelled run ending)
  addResultOf run.process
    (.cancelled run.suite run.category run.device run.attempt (← elapsedMs s run))

/-- Ends attempts whose run is cancelled. -/
def cancelRuns (s : Setup σ β) (active : List SuiteRun) : StateM (Run σ β) Unit :=
  active.forM (cancelRun s)

/-- What a look at an attempt shows. -/
inductive Glance where
  | running (watch : TimeoutWatch)
  /-- It has ended, or has been ended for a reason. -/
  | ended (outcome : ExitOutcome) (reason : Option String)

/-- Looks at an attempt and ends it when it has passed a limit. -/
def glance (s : Setup σ β) (run : SuiteRun) : Lab.Supervising σ Glance := do
  match ← Lab.poll s.host run.process with
  | some outcome => return .ended outcome none
  | none =>
    let length ← Lab.outputLength s.host run.process
    let watch := run.watch.observeOutput length (← Lab.sys s.host.now)
    match (watch.check (← Lab.sys s.host.now)).reason with
    | none => return .running watch
    | some reason => return .ended (← Lab.terminate s.host run.process) (some reason)

/-- Whether the output of an attempt asks for another one. -/
def wantsRerun (spec : Option SuiteSpec) (c : Classification) (output : String) : Bool :=
  c.rerunRequested || ((spec.bind SuiteSpec.rerunOn).any fun mark => Text.occursIn mark output)

/-- What follows the end of an attempt. -/
inductive Sequel where
  | rerun (next : SuiteRun)
  | recorded (kind : Option FailureKind)

/-- Starts another attempt when it is asked for and may be. -/
def sequel (s : Setup σ β) (run : SuiteRun) (reason : Option String) (c : Classification)
    (output : String) : ExceptT DurationError (StateM (Run σ β)) Sequel := do
  let spec := s.plan.config.suite? run.suite
  match reason with
  | some reason => return .recorded (some (.ofTimeoutReason reason))
  | none =>
    if wantsRerun spec c output then
      if run.attempt < (spec.map SuiteSpec.runLimit).getD 1 then
        match ← (trigger s run.suite run.deviceIndex (run.attempt + 1)).run with
        | .ok next => return .rerun next
        | .error (.duration cause) => throw cause
        | .error _ => return .recorded (some .dispatch)
      else return .recorded (some .rerunExhausted)
    else return .recorded (if c.ambiguous then some .ambiguous else none)

/-- Judges an attempt that has ended; gives the next one if there is one. -/
def complete (s : Setup σ β) (run : SuiteRun) (outcome : ExitOutcome) (reason : Option String) :
    ExceptT DurationError (StateM (Run σ β)) (Option SuiteRun) := do
  ExceptT.lift (noteMisstep (run.markExited outcome reason))
  let run := (run.markExited outcome reason).toOption.getD run
  let output := (← onLab (Lab.readOutput s.host run.process).run).toOption.getD ""
  let c := s.plan.classifier.classify run.category output run.exitCode
  addMove (.ended run c output)
  performPlain .collectDiagnostics s.backend.collectDiagnostics run.deviceIndex
  match ← sequel s run reason c output with
  | .rerun next => return some next
  | .recorded kind =>
    ExceptT.lift (noteMisstep (run.markClassified c))
    addResultOf run.process (.classified run.suite run.category run.device run.attempt c kind
      (← elapsedMs s run))
    return none

/-- Records an attempt that cannot be followed any more. -/
def lose (s : Setup σ β) (run : SuiteRun) (cause : SupervisorError) : StateM (Run σ β) Unit := do
  discard <| onLab (Lab.terminate s.host run.process).run
  addMove (.lost run cause)
  addResultOf run.process
    (.errored run.suite run.category run.device run.attempt .launch cause.message)

/-- Looks at one attempt; gives what is active afterwards. -/
def pollOne (s : Setup σ β) (run : SuiteRun) :
    ExceptT DurationError (StateM (Run σ β)) (Option SuiteRun) := do
  match ← onLab (glance s run).run with
  | .ok (.running watch) => return some { run with watch }
  | .ok (.ended outcome reason) => complete s run outcome reason
  | .error cause =>
    lose s run cause
    return none

/-- Looks at every active attempt in its order; gives what is active afterwards. -/
def pollEach (s : Setup σ β) :
    List SuiteRun → ExceptT DurationError (StateM (Run σ β)) (List SuiteRun)
  | [] => return []
  | run :: rest => do
    let next ← pollOne s run
    return next.toList ++ (← pollEach s rest)

/-- Shows that the run goes on, when that is due. -/
def beat (s : Setup σ β) (heartbeat : Heartbeat) : StateM (Run σ β) Heartbeat := do
  let (due, next) := heartbeat.due (← onLab (Lab.sys s.host.now))
  if due then onLab (Lab.note .info "#")
  return next

/-- Waits for the next look; if the run is cancelled meanwhile, the active attempts are ended. -/
def awaitLook (s : Setup σ β) (active : List SuiteRun) : Running σ β Unit := do
  if ← sleep s.host s.plan.timing.pollInterval then
    cancelRuns s active
    stopCancelled

/-- Looks at the active attempts until none is left, at most for a number of passes. -/
def pollUntilDone (s : Setup σ β) : Nat → Heartbeat → List SuiteRun → Running σ β Unit
  | _, _, [] => return
  | 0, _, _ => throw (.broken .unfinished)
  | passes + 1, heartbeat, active => do
    addMove .polled
    let active ← ExceptT.adapt (Stop.broken ∘ .duration) (pollEach s active)
    if active.isEmpty then return
    let heartbeat ← beat s heartbeat
    awaitLook s active
    pollUntilDone s passes heartbeat active

/-- The number of looks after which every suite has passed its limits as often as it may. -/
def passLimit (p : RunPlan) : Nat :=
  p.config.selected.foldl (fun passes name =>
    match p.config.suite? name with
    | none => passes
    | some spec =>
      let overall := match p.timing.suite.withOverrides spec.timeoutSecs spec.idleTimeoutSecs with
        | .ok limits => limits.overall.nanos
        | .error _ => 0
      passes + spec.runLimit * (overall / max 1 p.timing.pollInterval.nanos + 3)) 1

/-- Launches the first attempt of every suite that is not blocked, from an index on; gives those
that are active. -/
def triggerFrom (s : Setup σ β) (blocked : List (Nat × String)) (index : Nat)
    (active : List SuiteRun) : List String → Running σ β (List SuiteRun)
  | [] => return active
  | name :: rest => do
    let category := ((s.plan.config.suite? name).map SuiteSpec.category).getD ""
    let device := ((← get).devices[index]?.map Device.name).getD ""
    match blocked.find? fun entry => entry.1 == index with
    | some (_, reason) =>
      addResult (.blocked name category device .install reason)
      triggerFrom s blocked (index + 1) active rest
    | none =>
      match ← (trigger s name index 1).run with
      | .ok run => triggerFrom s blocked (index + 1) (active ++ [run]) rest
      | .error (.launch cause) =>
        cancelRuns s active
        throw (.phase (.failure .suitesRunning .launch cause.message))
      | .error (.duration cause) => throw (.broken (.duration cause))
      | .error (.command cause) =>
        addResult (.blocked name category device .dispatch cause.message)
        triggerFrom s blocked (index + 1) active rest

/-- Runs the selected suites except those of blocked devices, with at most so many looks at them. -/
def runSuites (s : Setup σ β) (passes : Nat) (blocked : List (Nat × String)) :
    Running σ β Unit := do
  let active ← triggerFrom s blocked 0 [] s.plan.config.selected
  let heartbeat := Heartbeat.startedAt s.plan.timing.heartbeatInterval
    (← onLab (Lab.sys s.host.now))
  pollUntilDone s passes heartbeat active

end Run

end DeviceLab
