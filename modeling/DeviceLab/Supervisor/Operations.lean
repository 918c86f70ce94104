import DeviceLab.Decimal.Powers
import DeviceLab.Process.Stray
import DeviceLab.Supervisor.Basic
import DeviceLab.Text.Path

/-!
# Operations of the supervisor

* `Lab.launch`, `Lab.poll`, `Lab.terminate`, `Lab.release`: the life of a supervised process.
  Ending one means a polite signal to its group, a wait of at most the grace period, a signal that
  cannot be refused, and a sweep of the processes it may have left behind.
* `Lab.sweep`: kills every process whose command contains a pattern.
* `Lab.runToCompletion`: launches a short command, waits for it, and takes its output.
* `Lab.terminateAll`, `Lab.close`: end everything.
-/

namespace DeviceLab

namespace Lab

open Text

abbrev Supervising (σ : Type) := ExceptT SupervisorError (StateM (Lab σ))

/-- An operation of the system, whose failure is one of the supervisor. -/
def attempt (operation : Attempt σ α) : Supervising σ α := do
  match ← sys operation.run with
  | .ok a => return a
  | .error cause => throw (.io cause)

/-- The process of a handle. -/
def proc (id : ProcessId) : Supervising σ Supervised := do
  match (← get).supervisor.proc? id with
  | some p => return p
  | none => throw (.unknownProcess id)

/-- Starts a process with its output going to a new file. -/
def launch (host : Host σ) (spec : LaunchSpec) :
    ExceptT LaunchError (StateM (Lab σ)) ProcessId := do
  match spec.argv with
  | [] => throw (.emptyCommand spec.label)
  | program :: _ =>
    match ← sys (host.createCapture (← get).supervisor.captureDir).run with
    | .error cause => throw (.capture spec.label cause)
    | .ok capture =>
      match ← sys (host.spawn spec capture).run with
      | .error cause =>
        discard <| sys (host.removeFile capture).run
        throw (.spawn spec.label program cause)
      | .ok pid =>
        let lab ← get
        let (id, supervisor) := lab.supervisor.enroll
          { label := spec.label, pid, capture, strayPattern := spec.strayPattern }
        set { lab with supervisor }
        record (.launched id spec)
        return id

/-- Writes down how a process ended. -/
def observe [Monad m] [MonadState (Lab σ) m] (id : ProcessId) (outcome : ExitOutcome) :
    m Unit := do
  modifySupervisor fun s => s.update id fun p => { p with outcome := some outcome }
  record (.exited id outcome)

/-- How a process ended, if it has. -/
def poll (host : Host σ) (id : ProcessId) : Supervising σ (Option ExitOutcome) := do
  let p ← proc id
  match p.outcome with
  | some outcome => return some outcome
  | none =>
    match ← attempt (host.tryWait p.pid) with
    | none => return none
    | some outcome =>
      observe id outcome
      return some outcome

/-- Whether a process has not been seen to exit. -/
def isRunning (host : Host σ) (id : ProcessId) : Supervising σ Bool := do
  return (← poll host id).isNone

/-- What a process has written so far; bytes that are no text are replaced. -/
def readOutput (host : Host σ) (id : ProcessId) : Supervising σ String := do
  return Utf8.decodeLossy (← attempt (host.readFile (← proc id).capture))

/-- The length of what a process has written so far, in bytes. -/
def outputLength (host : Host σ) (id : ProcessId) : Supervising σ Nat := do
  attempt (host.fileSize (← proc id).capture)

/-- The time between two looks at a process that is to end. -/
def pollStep : Duration := .ofMillis 50

/-- The number of looks that fit into a time, both ends included. -/
def looks (d : Duration) : Nat := d.nanos / pollStep.nanos + 2

/-- Waits until a process ends, at most for a time from an instant on. -/
def awaitExit (host : Host σ) (id : ProcessId) (start : Instant) (limit : Duration) :
    Nat → Supervising σ (Option ExitOutcome)
  | 0 => return none
  | tries + 1 => do
    if limit.nanos ≤ ((← sys host.now).since start).nanos then return none
    match ← poll host id with
    | some outcome => return some outcome
    | none =>
      pause host pollStep
      awaitExit host id start limit tries

/-- The time between two looks at the output of a process. -/
def outputStep : Duration := ⟨100000⟩

/-- Waits until a process has written so many bytes, at most for a number of looks; gives how many
it has written. -/
def awaitOutput (host : Host σ) (id : ProcessId) (length : Nat) : Nat → Supervising σ Nat
  | 0 => outputLength host id
  | tries + 1 => do
    let found ← outputLength host id
    if length ≤ found then return found
    pause host outputStep
    awaitOutput host id length tries

/-- Signals the group of a process, or the process alone if it leads no group. -/
def signalTree (host : Host σ) (pid : Nat) (signal : StopSignal) : StateM (Lab σ) Unit := do
  unless ← sys (host.signalGroup pid signal) do
    discard <| sys (host.signalProcess pid signal)

/-- The number that the system takes for a process number of 32 bits: its upper half stands for
negative numbers. -/
def addressed (pid : Nat) : Int :=
  if pid < Decimal.twoTo 31 then pid else (pid : Int) - Decimal.twoTo 32

/-- Kills listed processes other than the program's own; gives how many there were. -/
def killListed (host : Host σ) (own : Nat) : List (Nat × String) → StateM (Lab σ) Nat
  | [] => return 0
  | (pid, command) :: rest => do
    if pid = own then killListed host own rest
    else
      record (.strayKilled pid command)
      let found ← sys (host.signalProcess (addressed pid) .kill)
      return (if found then 1 else 0) + (← killListed host own rest)

/-- Kills every process whose command contains a pattern; gives how many there were.  The empty
pattern means none. -/
def sweep (host : Host σ) (pattern : String) : StateM (Lab σ) (Except IoError Nat) := do
  if pattern.isEmpty then return .ok 0
  match ← sys host.listProcesses.run with
  | .error cause => return .error cause
  | .ok listing =>
    let own ← sys host.ownPid
    let killed ← killListed host own (Stray.matchingPids (Utf8.decodeLossy listing) pattern)
    record (.swept pattern)
    return .ok killed

/-- Sweeps what a process may have left behind. -/
def sweepAfter (host : Host σ) (p : Supervised) : StateM (Lab σ) Unit := do
  match p.strayPattern with
  | none => return
  | some pattern =>
    match ← sweep host pattern with
    | .ok _ => return
    | .error _ => record (.sweepFailed pattern)

/-- Ends a process that has not been seen to exit. -/
def stop (host : Host σ) (id : ProcessId) (pid : Nat) : Supervising σ Unit := do
  record (.terminating id)
  signalTree host pid .term
  let grace := (← get).supervisor.grace
  match ← awaitExit host id (← sys host.now) grace (looks grace) with
  | some _ => return
  | none =>
    record (.graceExpired id)
    signalTree host pid .kill
    observe id (← attempt (host.wait pid))

/-- What is told of a process whose end was not written down. -/
def unknownOutcome : ExitOutcome := .signaled "unknown"

/-- Ends a process with all that it started; one that has ended is only swept after. -/
def terminate (host : Host σ) (id : ProcessId) : Supervising σ ExitOutcome := do
  let p ← proc id
  match ← poll host id with
  | some _ => pure ()
  | none => stop host id p.pid
  modifySupervisor fun s => s.unlistGroup p.pid
  sweepAfter host p
  return ((← get).supervisor.outcome? id).getD unknownOutcome

/-- Ends the processes of some handles that have not been seen to exit.  Of those that share a
pattern only the first is swept after; `swept` are the patterns of those before. -/
def terminateEach (host : Host σ) (swept : List String) : List ProcessId → StateM (Lab σ) Unit
  | [] => return
  | id :: rest => do
    match (← get).supervisor.proc? id with
    | none => terminateEach host swept rest
    | some p =>
      if p.outcome.isSome then terminateEach host swept rest
      else
        let swept ← match p.strayPattern with
          | none => pure swept
          | some pattern => do
            if swept.contains pattern then
              modifySupervisor fun s => s.update id fun p => { p with strayPattern := none }
              pure swept
            else pure (pattern :: swept)
        match ← (terminate host id).run with
        | .ok _ => pure ()
        | .error _ => record (.terminateFailed id)
        terminateEach host swept rest

/-- Ends every process that has not been seen to exit. -/
def terminateAll (host : Host σ) : StateM (Lab σ) Unit := do
  terminateEach host [] (← get).supervisor.ids

/-- Copies the output of a process into a directory under a name. -/
def preserve (host : Host σ) (id : ProcessId) (dir name : String) : Supervising σ String := do
  let p ← proc id
  attempt (host.createDirectories dir)
  let file := Path.join dir name
  attempt (host.copyFile p.capture file)
  record (.preserved id file)
  return file

/-- Forgets a process, ending it first if need be, and removes its output. -/
def release (host : Host σ) (id : ProcessId) : Supervising σ Unit := do
  if (← proc id).outcome.isNone then discard <| terminate host id
  let p ← proc id
  modifySupervisor fun s => (s.forget id).unlistGroup p.pid
  discard <| sys (host.removeFile p.capture).run
  record (.released id)

/-- What a short command did. -/
structure Completion where
  outcome : ExitOutcome
  output : String
  timedOut : Bool
  deriving DecidableEq, Repr

/-- Launches a command, waits for it at most for a time, takes its output and forgets it. -/
def runToCompletion (host : Host σ) (spec : LaunchSpec) (limit : Duration) :
    Supervising σ Completion := do
  let id ← ExceptT.adapt SupervisorError.launch (launch host spec)
  let start ← sys host.now
  let (outcome, timedOut) ← waitFor id start (looks limit)
  let output ← readOutput host id
  release host id
  return { outcome, output, timedOut }
where
  /-- Looks at the process first and at the clock after. -/
  waitFor (id : ProcessId) (start : Instant) : Nat → Supervising σ (ExitOutcome × Bool)
    | 0 => do return (← terminate host id, true)
    | tries + 1 => do
      match ← poll host id with
      | some outcome => return (outcome, false)
      | none =>
        if limit.nanos ≤ ((← sys host.now).since start).nanos then
          return (← terminate host id, true)
        pause host pollStep
        waitFor id start tries

/-- Kills every listed group and clears the list; gives how many there were. -/
def killGroups (host : Host σ) : StateM (Lab σ) Nat := do
  let groups := (← get).supervisor.groups
  modifySupervisor fun s => { s with groups := [] }
  groups.foldlM (fun killed pid => do
    return killed + (if ← sys (host.signalGroup pid .kill) then 1 else 0)) 0

/-- Removes the output of every process. -/
def removeCaptures (host : Host σ) : List (ProcessId × Supervised) → StateM (Lab σ) Unit
  | [] => return
  | (_, p) :: rest => do
    discard <| sys (host.removeFile p.capture).run
    removeCaptures host rest

/-- Gives the supervisor up: whatever runs is ended, and all output is removed. -/
def close (host : Host σ) : StateM (Lab σ) Unit := do
  let running := (← get).supervisor.running
  unless running.isEmpty do
    record (.abandoned running.length)
    terminateAll host
  removeCaptures host (← get).supervisor.procs
  modifySupervisor fun s => { s with procs := [] }

end Lab

end DeviceLab
