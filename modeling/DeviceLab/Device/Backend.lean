import DeviceLab.Device.Basic
import DeviceLab.Supervisor.Operations

/-!
# Device backends

A backend carries out the steps that a run takes with its devices.  Each step works on one device,
on what the backend remembers, and on the lab.

* `Backend`: the nine steps.
* `BackendCall`: a step that was asked for, and how it ended.
* `Backend.cancelling`: a backend that cancels the run when a certain step is asked for.
-/

namespace DeviceLab

/-- What a step works on. -/
structure Station (σ β : Type) where
  device : Device
  /-- What the backend remembers. -/
  memory : β
  lab : Lab σ

/-- A step that may fail. -/
abbrev DeviceStep (σ β ε : Type) := ExceptT ε (StateM (Station σ β))

namespace Station

variable {m : Type → Type} [MonadState (Station σ β) m]

/-- Carries out an operation of the lab. -/
def onLab (operation : StateM (Lab σ) α) : m α :=
  modifyGet fun s =>
    let r := operation s.lab
    (r.1, { s with lab := r.2 })

def modifyDevice (change : Device → Device) : m Unit :=
  modify fun s => { s with device := change s.device }

def setHealth (health : HealthState) : m Unit := modifyDevice fun d => { d with health }

/-- Writes a line to the log. -/
def note (level : LogLevel) (message : String) : m Unit := onLab (Lab.note level message)

end Station

/-- The steps that a run takes with a device. -/
structure Backend (σ β : Type) where
  /-- Claims the device before anything is started. -/
  acquire : DeviceStep σ β DeviceError Unit
  /-- Starts its emulator. -/
  launch : DeviceStep σ β DeviceError Unit
  /-- Leads ports of the host to its agent. -/
  redirect : DeviceStep σ β DeviceError Unit
  /-- Ends a half-started emulator before all devices are started anew. -/
  abortStart : StateM (Station σ β) Unit
  checkHealth : DeviceStep σ β DeviceError Unit
  /-- Starts the companion that captures the device's log, if there is one. -/
  startLogCapture : DeviceStep σ β DeviceError Unit
  /-- Installs a package from a path. -/
  install : String → String → DeviceStep σ β InstallError Unit
  /-- Writes to the log what the device looks like after its suite has ended. -/
  collectDiagnostics : StateM (Station σ β) Unit
  /-- Ends everything that was started for the device. -/
  teardown : StateM (Station σ β) Unit

/-- The kinds of steps. -/
inductive CallKind where
  | acquire
  | launch
  | redirect
  | abortStart
  | checkHealth
  | startLogCapture
  | install
  | collectDiagnostics
  | teardown
  deriving DecidableEq, Repr

namespace CallKind

def all : List CallKind :=
  [.acquire, .launch, .redirect, .abortStart, .checkHealth, .startLogCapture, .install,
    .collectDiagnostics, .teardown]

/-- The name of a kind. -/
def name : CallKind → String
  | .acquire => "Acquire"
  | .launch => "Launch"
  | .redirect => "Redirect"
  | .abortStart => "AbortStart"
  | .checkHealth => "CheckHealth"
  | .startLogCapture => "StartLogCapture"
  | .install => "Install"
  | .collectDiagnostics => "CollectDiagnostics"
  | .teardown => "Teardown"

def ofName? (name : String) : Option CallKind := all.find? fun k => k.name == name

end CallKind

/-- How a step ended. -/
inductive CallResult where
  | done
  | failed
  /-- It failed, and another try would fail in the same way. -/
  | hopeless
  deriving DecidableEq, Repr

namespace CallResult

/-- How a step with a device ended. -/
def ofDevice : Except DeviceError α → CallResult
  | .ok _ => .done
  | .error e => if e.isFatal then .hopeless else .failed

/-- How the installation of a package ended. -/
def ofInstall : Except InstallError α → CallResult
  | .ok _ => .done
  | .error _ => .failed

end CallResult

/-- A step that was asked for. -/
structure BackendCall where
  kind : CallKind
  /-- The place of the device. -/
  index : Nat
  device : String
  /-- The package to install. -/
  package : Option String := none
  result : CallResult := .done
  deriving DecidableEq, Repr

def BackendCall.text (c : BackendCall) : String :=
  s!"{c.kind.name} {c.device}" ++ (c.package.map (" " ++ ·)).getD ""

/-- A call at which a run is cancelled: the nth one of a kind, for one device or for any. -/
structure CancelPoint where
  kind : CallKind
  device : Option String := none
  nth : Nat := 1
  deriving DecidableEq, Repr

def CancelPoint.isMet (p : CancelPoint) (kind : CallKind) (device : String) : Bool :=
  p.kind == kind && p.device.all (· == device)

namespace Backend

/-- Works on the part of the memory that a backend knows. -/
def withInner (operation : StateM (Station σ β) α) : StateM (Station σ (β × Nat)) α := fun s =>
  let (a, t) := operation ⟨s.device, s.memory.1, s.lab⟩
  (a, ⟨t.device, (t.memory, s.memory.2), t.lab⟩)

/-- Counts a call and cancels the run when it is the one. -/
def countCall (host : Host σ) (point : CancelPoint) (kind : CallKind) :
    StateM (Station σ (β × Nat)) Unit := do
  let s ← get
  if point.isMet kind s.device.name then
    let count := s.memory.2 + 1
    set { s with memory := (s.memory.1, count) }
    if count = point.nth then Station.onLab (Lab.sys host.requestCancel)

/-- The same steps, but the run is cancelled when a certain one is asked for, before it is carried
out. -/
def cancelling (host : Host σ) (point : CancelPoint) (backend : Backend σ β) :
    Backend σ (β × Nat) :=
  let step {α : Type} (kind : CallKind) (operation : StateM (Station σ β) α) :
      StateM (Station σ (β × Nat)) α := do
    countCall host point kind
    withInner operation
  { acquire := step .acquire backend.acquire
    launch := step .launch backend.launch
    redirect := step .redirect backend.redirect
    abortStart := step .abortStart backend.abortStart
    checkHealth := step .checkHealth backend.checkHealth
    startLogCapture := step .startLogCapture backend.startLogCapture
    install := fun package path => step .install (backend.install package path)
    collectDiagnostics := step .collectDiagnostics backend.collectDiagnostics
    teardown := step .teardown backend.teardown }

end Backend

end DeviceLab
