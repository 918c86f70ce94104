import DeviceLab.Shell.State

/-!
# Jobs and signals

A job is what a shell has started by one command.  The shell notes how its processes end, and tells of
those that a signal has ended while it waits for them.

* `Shell.makeJob`, `Shell.waitForJob`, `Shell.reap`: jobs.
* `Shell.collect`, `Shell.takePending`: signals that have come in.
* `Shell.enterChild`: what a child forgets of its parent.
-/

namespace DeviceLab.Shell

open Unix

/-! ### Signals -/

/-- Whether something is done on a signal. -/
def State.catches (s : State) : Bool := s.traps.any fun trap => trap.1 != 0 && trap.2 != ""

/-- Notes the signals that have come in. -/
def collect : Interpreting Unit := do
  if State.catches (← get) then
    let caught ← ask .caught
    unless caught.isEmpty do modify fun s => { s with pending := s.pending ++ caught }

/-- The pending signal with the least number, which is pending no longer. -/
def takePending : Interpreting (Option Nat) := do
  let s ← get
  match s.pending.min? with
  | none => return none
  | some n =>
    set { s with pending := s.pending.filter (· != n) }
    return some n

/-! ### Jobs -/

def updateJob (number : Nat) (change : Job → Job) : Interpreting Unit :=
  modify fun s =>
    { s with jobs := s.jobs.map fun job => if job.number = number then change job else job }

def freeJob (number : Nat) : Interpreting Unit :=
  modify fun s => { s with jobs := s.jobs.filter fun job => job.number != number }

def job? (s : State) (number : Nat) : Option Job := s.jobs.find? fun job => job.number == number

/-- Enters a new job with the first number that is free, or whose job is over and has been waited
for. -/
def makeJob : Interpreting Nat := do
  let s ← get
  let isFree (n : Nat) : Bool :=
    (job? s n).all fun job => job.isDone && job.isWaitedFor && !job.processes.isEmpty
  let number := (((List.range (s.jobs.length + 1)).map (· + 1)).find? isFree).getD 1
  freeJob number
  modify fun s => { s with jobs := { number, processes := [] } :: s.jobs }
  return number

def addProcess (number pid : Nat) : Interpreting Unit :=
  updateJob number fun job => { job with processes := job.processes ++ [(pid, none)] }

/-- Notes the end of a process; gives the number of its job. -/
def noteEnding (pid : Nat) (ending : Ending) : Interpreting (Option Nat) := do
  let s ← get
  let running := s.jobs.find? fun job =>
    !job.isDone && job.processes.any fun entry => entry.1 == pid
  match running with
  | none => return none
  | some job =>
    updateJob job.number fun job =>
      let processes := job.processes.map fun entry =>
        if entry.1 = pid then (pid, some ending) else entry
      let job := { job with processes }
      { job with isChanged := job.isChanged || job.isDone }
    return some job.number

/-- What comes of looking for a child that has ended. -/
inductive Looked where
  | ended
  | nothing
  /-- There is no child that could end. -/
  | childless
  | interrupted
  deriving DecidableEq

/-- Waits for a child that has ended, or looks for one.  A signal that ended a process of the job that
is waited for is told. -/
def look (patient : Bool) (awaited : Option Nat) : Interpreting Looked := do
  match ← ask (.wait patient) with
  | .childless => return .childless
  | .nothing => return .nothing
  | .interrupted =>
    collect
    return .interrupted
  | .ended pid ending =>
    let job ← noteEnding pid ending
    match ending with
    | .signal n =>
      if job.isSome && job == awaited && n != Signal.interrupt && n != Signal.pipe then
        discard (writeTo 2 (Signal.notice n ++ "\n"))
    | .code _ => pure ()
    return .ended

/-- Whether a job is still running. -/
def isRunning (number : Nat) : Interpreting Bool := return (job? (← get) number).any fun job => !job.isDone

/-- The greatest number of children that are looked for in one go. -/
def childLimit : Nat := 1000000

/-- Takes notice of all children that have ended; `fuel` bounds their number. -/
def drain (awaited : Option Nat) : Nat → Interpreting Unit
  | 0 => return
  | fuel + 1 => do
    if (← look false awaited) = .ended then drain awaited fuel

/-- Waits until a job is done, whatever signals come in. -/
def waitUntilDone (number : Nat) : Nat → Interpreting Unit
  | 0 => return
  | fuel + 1 => do
    if ← isRunning number then
      match ← look true (some number) with
      | .childless => return
      | _ => waitUntilDone number fuel
    else drain (some number) childLimit

/-- Waits until a job is done, and forgets it; gives its status. -/
def waitForJob (number : Nat) : Interpreting Nat := do
  waitUntilDone number childLimit
  let status := ((job? (← get) number).map Job.status).getD 0
  freeJob number
  return status

/-- Takes notice of children that have ended in the meantime. -/
def reap : Interpreting Unit := do
  if (← get).jobs.any fun job => !job.isDone then drain none childLimit

/-! ### Children -/

/-- What a child forgets of its parent: jobs, and what is done on signals. -/
def enterChild : Interpreting Unit := do
  let s ← get
  for (n, action) in s.traps do
    if n != 0 && action != "" then ask (.arrange n .usual)
  modify fun s => { s with
    traps := s.traps.filter fun trap => trap.1 != 0 && trap.2 == ""
    pending := []
    jobs := []
    skip := .nothing
    loops := 0
    output := []
    keptStatus := none }

/-- What a child does that is not waited for: it does not take notice of the keyboard, and reads
nothing. -/
def enterBackground (isFirst : Bool) : Interpreting Unit := do
  for n in [Signal.interrupt, Signal.quit] do
    ask (.arrange n .ignored)
    modify fun s => { s with ignored := n :: s.ignored }
  if isFirst then
    discard (ask (.close 0))
    discard (ask (.openFile "/dev/null" .reading))

end DeviceLab.Shell
