import DeviceLab.Run.Basic

/-!
# Starting and equipping the devices

* `Run.acquireDevices`, `Run.startDevices`: the devices are acquired and started.
* `Run.installArtifacts`: packages are installed on them.
-/

/-!
## Starting the devices

All devices are acquired one after the other, and then started together: an attempt launches every
device, redirects the ports of each, and checks the health of each.  When an attempt fails all
devices are ended, and the next attempt begins anew unless the failure is for good.
-/

namespace DeviceLab

namespace Run

/-- Acquires a device in a slot. -/
def acquireOne (s : Setup σ β) (index : Nat) (slot : DeviceSlot) : Running σ β Unit := do
  let run : Run σ β ← get
  let device : Device := { index, slot }
  let r := s.backend.acquire.run ⟨device, run.memory, run.lab⟩
  let call : BackendCall := { kind := .acquire, index, device := slot.name, result := .ofDevice r.1 }
  set { run with memory := r.2.memory, lab := r.2.lab, moves := run.moves.push (.called call) }
  match r.1 with
  | .ok () => modify fun run => { run with devices := run.devices ++ [r.2.device] }
  | .error e => throw (.phase (.failure .acquiringDevices .acquire e.message))

/-- Acquires devices in their order, from an index on. -/
def acquireFrom (s : Setup σ β) (index : Nat) : List DeviceSlot → Running σ β Unit
  | [] => return
  | slot :: rest => do
    acquireOne s index slot
    acquireFrom s (index + 1) rest

/-- Acquires the devices of the selected suites. -/
def acquireDevices (s : Setup σ β) : Running σ β Unit :=
  acquireFrom s 0 s.plan.config.boundDevices

/-- One attempt to start all devices. -/
def startAttempt (s : Setup σ β) : ExceptT DeviceError (StateM (Run σ β)) Unit := do
  let indices := (← get).indices
  indices.forM (performStep .launch s.backend.launch)
  indices.forM (performStep .redirect s.backend.redirect)
  indices.forM (performStep .checkHealth s.backend.checkHealth)

/-- Ends whatever an attempt has started. -/
def abortAttempt (s : Setup σ β) : StateM (Run σ β) Unit := do
  (← get).indices.forM (performPlain .abortStart s.backend.abortStart)

/-- Attempts to start all devices, from an attempt on; `remaining` are those that may follow. -/
def startFrom (s : Setup σ β) : Nat → Nat → Running σ β Unit
  | remaining, attempt => do
    addMove (.attempted attempt)
    match ← (startAttempt s).run with
    | .ok () =>
      addPhase (.plain .devicesStarting .success
        s!"{(← get).devices.length} device(s) healthy after {attempt} attempt(s)")
    | .error e =>
      abortAttempt s
      if e.isFatal then throw (.phase (.failure .devicesStarting .launch e.message))
      match remaining with
      | 0 =>
        throw (.phase (.failure .devicesStarting .startup
          s!"{e.message} (gave up after {attempt} attempts)"))
      | remaining + 1 =>
        let delay := s.plan.timing.startup.backoff.delayForRetry attempt
        if ← sleep s.host delay then stopCancelled
        startFrom s remaining (attempt + 1)

def startDevices (s : Setup σ β) : Running σ β Unit :=
  startFrom s (s.plan.timing.startup.maxAttempts - 1) 1

/-- Starts the companions that capture the devices' logs; a failure is passed over. -/
def startLogCapture (s : Setup σ β) : StateM (Run σ β) Unit := do
  (← get).indices.forM fun index =>
    discard <| perform .startLogCapture none .ofDevice s.backend.startLogCapture.run index

end Run

end DeviceLab

/-!
## Installing packages

Every device gets the artifact under test, then the packages that its suite requires and those that
all devices get, in the order of their names.  A device whose artifact or required package cannot be
installed is blocked; other failures are only counted.
-/

namespace DeviceLab

namespace Run

/-- The name of the artifact under test. -/
def mainPackage : String := "main"

/-- What has gone wrong so far. -/
structure InstallTally where
  /-- Why devices are blocked, by their indices. -/
  blocked : List (Nat × String) := []
  /-- The failed installations of packages that the suite does not require. -/
  optional : Nat := 0
  deriving DecidableEq, Repr

/-- Installs one package on a device; gives why it failed. -/
def installOne (s : Setup σ β) (index : Nat) (package path : String) :
    StateM (Run σ β) (Option InstallError) := do
  match ← perform .install (some package) .ofInstall (s.backend.install package path).run index with
  | some (.error e) => return some e
  | _ => return none

/-- Installs the packages that are required or meant for all devices, up to the first required one
that fails. -/
def installRest (s : Setup σ β) (index : Nat) (requires : List String) (tally : InstallTally) :
    List (String × Package) → StateM (Run σ β) InstallTally
  | [] => return tally
  | (name, package) :: rest => do
    let required := requires.contains name
    if required || package.always then
      match ← installOne s index name (s.plan.config.workPath package.path) with
      | none => installRest s index requires tally rest
      | some e =>
        if required then
          return { tally with blocked := tally.blocked ++ [(index, e.message)] }
        else installRest s index requires { tally with optional := tally.optional + 1 } rest
    else installRest s index requires tally rest

/-- Installs everything that a device is to have. -/
def installOn (s : Setup σ β) (index : Nat) (suite : String) (tally : InstallTally) :
    StateM (Run σ β) InstallTally := do
  if (← get).devices.length ≤ index then return tally
  match ← installOne s index mainPackage s.plan.context.installerPath with
  | some e => return { tally with blocked := tally.blocked ++ [(index, e.message)] }
  | none =>
    let requires := ((s.plan.config.suite? suite).map SuiteSpec.requires).getD []
    installRest s index requires tally s.plan.config.packages

/-- Installs on the devices of some suites, from an index on. -/
def installFrom (s : Setup σ β) (index : Nat) (tally : InstallTally) :
    List String → StateM (Run σ β) InstallTally
  | [] => return tally
  | suite :: rest => do
    let tally ← installOn s index suite tally
    installFrom s (index + 1) tally rest

/-- The outcome of the phase. -/
def InstallTally.outcome (t : InstallTally) : PhaseOutcome :=
  if !t.blocked.isEmpty then
    .failure .artifactInstalling .install
      s!"{t.blocked.length} device(s) blocked by failed installs"
  else if 0 < t.optional then
    .plain .artifactInstalling .warning s!"{t.optional} optional install(s) failed"
  else .plain .artifactInstalling .success "all packages installed"

/-- Installs on all devices; gives why the suites of some cannot run. -/
def installArtifacts (s : Setup σ β) : StateM (Run σ β) (List (Nat × String)) := do
  let tally ← installFrom s 0 {} s.plan.config.selected
  addPhase tally.outcome
  return tally.blocked

end Run

end DeviceLab
