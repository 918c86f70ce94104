import DeviceLab.Console.Connect
import DeviceLab.Context
import DeviceLab.Device.Backend

/-!
# Emulators

The backend for real emulators.  The commands that start an emulator, check it, capture its log and
install packages are templates of the configuration; ports are redirected through the console.
-/

namespace DeviceLab

/-- What it takes to work with emulators. -/
structure EmulatorControl where
  settings : EmulatorSettings
  /-- The address of consoles and agents. -/
  consoleHost : String
  /-- The directory for logs of devices. -/
  uploadDir : String
  timing : Timing

namespace EmulatorControl

open Station

def ofConfig (c : Config) (ctx : RunContext) (timing : Timing) : EmulatorControl :=
  ⟨c.emulator, ctx.consoleHost, ctx.uploadDir, timing⟩

/-- The values that the commands for a device may name. -/
def values (d : Device) : Values :=
  [("console_port", toString d.slot.consolePort), ("device_id", d.deviceId), ("name", d.name)]

/-- The lines of an emulator's output that are shown after a suite. -/
def tailLength : Nat := 40

/-- What an installer prints when it fails, even if it ends in order. -/
def failureMark : String := "Failure"

/-- The last lines of a text, and their number. -/
def lastLines (count : Nat) (text : String) : Nat × String :=
  let lines := Text.linesOf text
  let tail := lines.drop (lines.length - count)
  (tail.length, "\n".intercalate tail)

/-- A text without the blanks at its end. -/
def withoutEnd (text : String) : String := String.ofList (Text.trimEnd text.toList)

/-- Carries out an operation of the supervisor as a part of a step. -/
def supervising (operation : Lab.Supervising σ α) : DeviceStep σ Unit DeviceError α := do
  match ← onLab operation.run with
  | .ok a => return a
  | .error cause => throw (.supervisor cause)

/-- The emulator has been launched and has not ended. -/
def ensureRunning (host : Host σ) : DeviceStep σ Unit DeviceError Unit := do
  let device := (← get).device
  match device.process with
  | none => throw (.notLaunched device.name)
  | some id =>
    match ← supervising (Lab.poll host id) with
    | none => return
    | some outcome => throw (.exited device.name outcome)

/-- Fills in a command for the device. -/
def command (templates : List String) : DeviceStep σ Unit DeviceError (List String) := do
  let device := (← get).device
  match Template.renderAll templates (values device) with
  | .ok argv => return argv
  | .error cause => throw (.command device.name cause)

def launchFor (host : Host σ) (spec : LaunchSpec) : DeviceStep σ Unit DeviceError ProcessId := do
  match ← onLab (Lab.launch host spec).run with
  | .ok id => return id
  | .error cause => throw (.launch cause)

/-- Runs a short command for the device, if there is one, and writes its output to the log. -/
def runAside (host : Host σ) (limit : Duration) (label : String) (templates : List String) :
    StateM (Station σ Unit) Unit := do
  if templates.isEmpty then return
  let device := (← get).device
  match Template.renderAll templates (values device) with
  | .error _ => note .warn s!"{label} command not rendered"
  | .ok argv =>
    let spec : LaunchSpec := { label := s!"{label}:{device.name}", argv }
    match ← onLab (Lab.runToCompletion host spec limit).run with
    | .error _ => note .warn s!"{label} not run"
    | .ok done =>
      if done.outcome.success && !done.timedOut then
        note .info s!"{label}:\n{withoutEnd done.output}"
      else note .warn s!"{label} failed:\n{withoutEnd done.output}"

/-- Asks the console for its view of the device and writes it to the log. -/
def noteStatus (host : Host σ) (e : EmulatorControl) : StateM (Station σ Unit) Unit := do
  let device := (← get).device
  match ← onLab (Console.statusReport host e.consoleHost device.slot.consolePort
      e.timing.console) with
  | .ok report =>
    note .info s!"console status:\n{withoutEnd report}"
    modifyDevice fun d => { d with statusReport := some report }
  | .error _ => note .warn "console status report failed"

/-- Ends a process of the device; a failure is only noted. -/
def endProcess (host : Host σ) (id : ProcessId) (what : String) :
    StateM (Station σ Unit) Unit := do
  match ← onLab (Lab.terminate host id).run with
  | .ok _ => return
  | .error _ => note .warn s!"failed to stop {what}"

/-- The last part of a path. -/
def fileName (path : String) : String := (Path.parts path).getLastD ""

/-- Ends the companion and keeps what it captured. -/
def saveLog (host : Host σ) (e : EmulatorControl) (id : ProcessId) :
    StateM (Station σ Unit) Unit := do
  endProcess host id "logcat"
  let file := s!"logcat-{(← get).device.deviceId}.log"
  match ← onLab (Lab.preserve host id e.uploadDir (fileName file)).run with
  | .ok _ => note .info "logcat saved"
  | .error _ => note .warn "failed to save logcat"
  discard <| onLab (Lab.release host id).run

/-- Ends the companion, if there is one, and keeps what it captured. -/
def stopCompanion (host : Host σ) (e : EmulatorControl) : StateM (Station σ Unit) Unit := do
  match (← get).device.logcat with
  | none => return
  | some id =>
    modifyDevice fun d => { d with logcat := none }
    saveLog host e id

/-- Ends the emulator, if there is one; while it runs, its status is noted before. -/
def stopEmulator (host : Host σ) (e : EmulatorControl) : StateM (Station σ Unit) Unit := do
  match (← get).device.process with
  | none => return
  | some id =>
    let running ← onLab (Lab.isRunning host id).run
    if running.toOption = some true then noteStatus host e
    endProcess host id "emulator"

/-- Notes that emulators were left over, if there were any. -/
def noteSwept (swept : Except IoError Nat) : DeviceStep σ Unit DeviceError Unit := do
  match swept with
  | .ok 0 => return
  | .ok _ => note .warn "killed leftover emulators"
  | .error _ => note .warn "leftover emulator sweep failed"

/-- The steps with emulators. -/
def backend (host : Host σ) (e : EmulatorControl) : Backend σ Unit where
  acquire := do
    match e.settings.processName with
    | none => return
    | some pattern => noteSwept (← onLab (Lab.sweep host pattern))
  launch := do
    let argv ← command e.settings.command
    let id ← launchFor host
      { label := s!"emulator:{(← get).device.name}", argv, env := e.settings.env
        strayPattern := e.settings.processName }
    let p ← supervising (Lab.proc id)
    modifyDevice fun d =>
      { d with launchedPids := d.launchedPids ++ [p.pid], process := some id, health := .launched }
  redirect := do
    ensureRunning host
    let device := (← get).device
    match ← onLab (Console.redirect host e.consoleHost device.slot.consolePort
        (device.redirects e.settings) e.timing.redirect e.timing.console) with
    | .ok _ => setHealth .redirected
    | .error cause => throw (.redirect device.name cause)
  abortStart := do
    match (← get).device.process with
    | none => pure ()
    | some id =>
      modifyDevice fun d => { d with process := none }
      endProcess host id "emulator"
    setHealth .notStarted
  checkHealth := do
    ensureRunning host
    let device := (← get).device
    match ← onLab (Agent.probe host e.consoleHost device.slot.agentPort1 e.timing.agent
        e.timing.console) with
    | .ok () => pure ()
    | .error cause =>
      if e.settings.requireAgentHealth then
        setHealth .unhealthy
        throw (.agent device.name cause)
      note .warn "agent not answering, continuing"
    runAside host e.timing.installTimeout "shell check" e.settings.healthCommand
    noteStatus host e
    setHealth .healthy
  startLogCapture := do
    if e.settings.logcatCommand.isEmpty then return
    let argv ← command e.settings.logcatCommand
    let id ← launchFor host { label := s!"logcat:{(← get).device.name}", argv }
    modifyDevice fun d => { d with logcat := some id }
  install package path := do
    let device := (← get).device
    unless ← onLab (Lab.sys (host.pathExists path)) do throw (.missingArtifact package path)
    match Template.renderAll e.settings.installCommand
        (Json.enter "package" path (values device)) with
    | .error cause => throw (.command device.name cause)
    | .ok argv =>
      note .info "installing"
      match ← onLab (Lab.runToCompletion host
          { label := s!"install-{package}:{device.name}", argv } e.timing.installTimeout).run with
      | .error cause => throw (.supervisor cause)
      | .ok done =>
        if done.timedOut then throw (.timedOut device.name package)
        if !done.outcome.success || Text.occursIn failureMark done.output then
          throw (.failed device.name package done.outcome.text (Text.trimmed done.output))
  collectDiagnostics := do
    match (← get).device.process with
    | none => pure ()
    | some id =>
      match ← onLab (Lab.readOutput host id).run with
      | .error _ => note .warn "emulator output unavailable"
      | .ok output =>
        let (count, tail) := lastLines tailLength output
        note .info s!"emulator output (last {count} lines):\n{tail}"
    noteStatus host e
  teardown := do
    stopCompanion host e
    stopEmulator host e
    setHealth .stopped
    note .info "device stopped"

end EmulatorControl

end DeviceLab
