import DeviceLab.Device.Backend

/-!
# Scripted devices

A backend without emulators: each device is a process that sleeps, and a fault script says which
steps fail.

* `FaultScript.inject`, `FaultScript.clear`, `FaultScript.check`.
-/

/-!
## Scripted faults

A script says which steps of a device backend fail, for which devices and packages, and how often.
At each point the fault put there last is in force; calls that its filters refuse use nothing up.
-/

namespace DeviceLab

/-- A step that can be made to fail. -/
inductive FaultPoint where
  | acquire
  | launch
  | redirect
  | health
  | install
  deriving DecidableEq, Repr

/-- A fault. -/
structure DeviceFault where
  message : String
  /-- The device it is for, or all of them. -/
  device : Option String := none
  /-- The package it is for, or all of them and calls without one. -/
  package : Option String := none
  /-- The number of calls that fail, if it is limited. -/
  failCount : Option Nat := none
  /-- Whether a launch fails in a way that ends the run. -/
  fatal : Bool := false
  deriving DecidableEq, Repr

def DeviceFault.appliesTo (f : DeviceFault) (device : String) (package : Option String) : Bool :=
  f.device.all (· == device) && f.package.all (fun wanted => package == some wanted)

/-- The faults in force, each with the number of calls it has been asked about. -/
structure FaultScript where
  entries : List (FaultPoint × DeviceFault × Nat) := []
  deriving Repr

namespace FaultScript

/-- The fault in force at a point and its count. -/
def at? (s : FaultScript) (point : FaultPoint) : Option (DeviceFault × Nat) :=
  (s.entries.find? fun entry => entry.1 == point).map (·.2)

/-- Sets what is in force at a point. -/
def put (s : FaultScript) (point : FaultPoint) (fault : DeviceFault) (count : Nat) : FaultScript :=
  ⟨(point, fault, count) :: s.entries.filter fun entry => entry.1 != point⟩

def inject (s : FaultScript) (point : FaultPoint) (fault : DeviceFault) : FaultScript :=
  s.put point fault 0

/-- Takes all faults away. -/
def clear (_ : FaultScript) : FaultScript := {}

/-- Whether a call fails, and the script after it. -/
def check (s : FaultScript) (point : FaultPoint) (device : String) (package : Option String) :
    Option DeviceFault × FaultScript :=
  match s.at? point with
  | none => (none, s)
  | some (fault, count) =>
    if fault.appliesTo device package then
      let spent := fault.failCount.any (· < count + 1)
      (if spent then none else some fault, s.put point fault (count + 1))
    else (none, s)

end FaultScript

end DeviceLab

/-! ## The backend -/

namespace DeviceLab.Scripted

open Station

/-- What a scripted device is. -/
def sleeper : List String := ["sleep", "30"]

/-- A program that there is not, for launches that fail for good. -/
def missingProgram : String := "/nonexistent/emu-harness-mock-emulator"

/-- What a console says when it agrees. -/
def agreement : String := "OK"

/-- Asks the script about a step. -/
def fault? [MonadState (Station σ FaultScript) m] (point : FaultPoint) (package : Option String) :
    m (Option DeviceFault) :=
  modifyGet fun s =>
    let r := s.memory.check point s.device.name package
    (r.1, { s with memory := r.2 })

def failAt (point : FaultPoint) : DeviceStep σ FaultScript DeviceError Unit := do
  if (← fault? point none).isSome then throw (.notLaunched (← get).device.name)

/-- Starts a program in the place of an emulator. -/
def startProgram (host : Host σ) (argv : List String) :
    DeviceStep σ FaultScript DeviceError Unit := do
  let label := s!"emulator:{(← get).device.name}"
  match ← onLab (Lab.launch host { label, argv }).run with
  | .error cause => throw (.launch cause)
  | .ok id =>
    match ← onLab (Lab.proc id).run with
    | .error cause => throw (.supervisor cause)
    | .ok p => modifyDevice fun d =>
      { d with launchedPids := d.launchedPids ++ [p.pid], process := some id, health := .launched }

def endProgram (host : Host σ) (id : ProcessId) : StateM (Station σ FaultScript) Unit := do
  discard <| onLab (Lab.terminate host id).run

/-- The steps of scripted devices. -/
def backend (host : Host σ) : Backend σ FaultScript where
  acquire := failAt .acquire
  launch := do
    match ← fault? .launch none with
    | none => startProgram host sleeper
    | some fault =>
      if fault.fatal then startProgram host [missingProgram]
      else throw (.notLaunched (← get).device.name)
  redirect := do
    match ← fault? .redirect none with
    | some fault =>
      throw (.redirect (← get).device.name (.unexpectedReply agreement fault.message))
    | none => setHealth .redirected
  abortStart := do
    match (← get).device.process with
    | none => pure ()
    | some id =>
      modifyDevice fun d => { d with process := none }
      endProgram host id
    setHealth .notStarted
  checkHealth := do
    match (← get).device.process with
    | none => pure ()
    | some id =>
      match ← onLab (Lab.poll host id).run with
      | .error cause => throw (.supervisor cause)
      | .ok (some outcome) => throw (.exited (← get).device.name outcome)
      | .ok none => pure ()
    if (← fault? .health none).isSome then
      setHealth .unhealthy
      throw (.notLaunched (← get).device.name)
    setHealth .healthy
  startLogCapture := pure ()
  install package path := do
    match ← fault? .install (some package) with
    | none => pure ()
    | some fault =>
      throw (.failed (← get).device.name package "exit code 1" s!"{fault.message} ({path})")
  collectDiagnostics := pure ()
  teardown := do
    match (← get).device.process with
    | none => pure ()
    | some id => endProgram host id
    setHealth .stopped

end DeviceLab.Scripted
