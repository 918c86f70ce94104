import DeviceLab.Device.Emulator
import DeviceLab.Device.Scripted
import DeviceLab.Proofs.Supervision

/-! # What the backends do

A backend reaches the lab through operations of the supervisor and of consoles only, and what it
changes of a device is never the slot.  So whatever survives changes of the lab, of the memory of
the backend, and of the rest of the device survives every step of every backend that there is.
Most steps do less: they run short commands, and otherwise give no handle up, and they leave the
handles of the device alone.

* `Station.Sound`: a statement about stations that survives all of that; `Station.Mindful`: one that
  survives what most steps do.
* `Backend.Supplied`: the scripted backend, the emulators, and each of them with a point at which the
  run is cancelled.
* `Backend.Supplied.heeds`: most steps of these backends keep what is mindful.
* `Backend.Supplied.upholds`: every step of them keeps what is sound. -/

namespace DeviceLab

variable {σ β α ε : Type} {host : Host σ}

/-! ### Consoles and agents -/

theorem RetryPolicy.run_preserves {S : Type} {I : S → Prop} (policy : RetryPolicy)
    {sleep : Duration → StateM S Unit} {op : Nat → StateM S (Except ε α)}
    (hsleep : ∀ d, Preserves I (sleep d)) (hop : ∀ attempt, Preserves I (op attempt)) :
    Preserves I (policy.run sleep op) := by
  have hfrom : ∀ remaining attempt,
      Preserves I (runFrom policy.backoff sleep op remaining attempt) := by
    intro remaining
    induction remaining with
    | zero =>
        intro attempt
        rw [runFrom.eq_def]
        refine .bind (hop attempt) fun result => ?_
        cases result with
        | ok a => exact .pure
        | error e => exact .pure
    | succ remaining ih =>
        intro attempt
        rw [runFrom.eq_def]
        refine .bind (hop attempt) fun result => ?_
        cases result with
        | ok a => exact .pure
        | error e => exact .bind (hsleep _) fun _ => ih _
  exact hfrom _ 1

section Lab

variable {start : Lab σ}

namespace Lab

theorem pauseBetween_retains (d : Duration) :
    Preserves (Retains host start) (pauseBetween host d) :=
  .ite (pause_retains d) (.bind (note_retains _ _) fun _ => pause_retains d)

theorem connectOnce_retains (address : String) (port : Nat) (limit : Duration) :
    Preserves (Retains host start) (connectOnce host address port limit) := by
  refine .bind (sys_retains (.connect address port limit)) fun result => ?_
  cases result with
  | ok _ => exact .pure
  | error cause => exact .pure

theorem connect_retains (address : String) (port : Nat) (limit : Duration) (policy : RetryPolicy) :
    Preserves (Retains host start) (connect host address port limit policy) := by
  refine .bind (policy.run_preserves pauseBetween_retains fun _ => ?_) fun result => ?_
  · refine .bind (note_retains _ _) fun _ => .bind (connectOnce_retains address port limit)
      fun result => ?_
    cases result with
    | ok _ => exact .pure
    | error e => exact .bind (note_retains _ _) fun _ => .pure
  · cases result with
    | ok _ => exact .pure
    | error spent => exact .pure

end Lab

theorem Console.redirect_retains (address : String) (port : Nat) (redirects : List Redirect)
    (policy : RetryPolicy) (timeouts : ConsoleTimeouts) :
    Preserves (Lab.Retains host start)
      (Console.redirect host address port redirects policy timeouts) := by
  refine .bind (Lab.connect_retains _ _ _ _) fun result => ?_
  cases result with
  | ok _ => exact Lab.sys_retains (.askRedirects redirects timeouts.read)
  | error e => exact .pure

theorem Console.statusReport_retains (address : String) (port : Nat) (timeouts : ConsoleTimeouts) :
    Preserves (Lab.Retains host start) (Console.statusReport host address port timeouts) := by
  refine .bind (Lab.connectOnce_retains _ _ _) fun result => ?_
  cases result with
  | ok _ => exact Lab.sys_retains (.askStatus timeouts.read)
  | error e => exact .pure

theorem Agent.probe_retains (address : String) (port : Nat) (policy : RetryPolicy)
    (timeouts : ConsoleTimeouts) :
    Preserves (Lab.Retains host start) (Agent.probe host address port policy timeouts) := by
  refine .bind (policy.run_preserves Lab.pauseBetween_retains fun attempt => ?_) fun result => ?_
  · refine .bind (Lab.connectOnce_retains _ _ _) fun result => ?_
    cases result with
    | error e => exact .pure
    | ok _ =>
        refine .bind (Lab.sys_retains (.awaitPrompt timeouts.read)) fun got => ?_
        cases got with
        | none => exact .pure
        | some got => exact .pure
  · split <;> exact .pure

end Lab

/-! ### Operations of a station -/

namespace Station

/-- A statement about stations that survives changes of the lab, of the device in anything but its
slot, and of the memory. -/
structure Sound (host : Host σ) (I : Station σ β → Prop) : Prop where
  lab : ∀ t lab, I t → Lab.Evolves host t.lab lab → I { t with lab }
  device : ∀ t device, I t → device.slot = t.device.slot → I { t with device }
  memory : ∀ t memory, I t → I { t with memory }

/-- A statement about stations that survives short commands, whatever else gives no handle up, and
changes of the device that leave its place and its handles alone. -/
structure Mindful (host : Host σ) (I : Station σ β → Prop) : Prop where
  lab : ∀ t lab, I t → Lab.Retains host t.lab lab → I { t with lab }
  aside : ∀ t spec limit, I t →
    I { t with lab := ((Lab.runToCompletion host spec limit).run.run t.lab).2 }
  device : ∀ t device, I t → device.index = t.device.index → device.slot = t.device.slot →
    device.process = t.device.process → device.logcat = t.device.logcat → I { t with device }
  memory : ∀ t memory, I t → I { t with memory }

variable {I : Station σ β → Prop}

theorem Sound.mindful (hI : Sound host I) : Mindful host I where
  lab t lab ht h := hI.lab t lab ht h.evolves
  aside t spec limit ht :=
    hI.lab t _ ht (Lab.runToCompletion_evolves spec limit t.lab .refl)
  device t device ht _ hslot _ _ := hI.device t device ht hslot
  memory := hI.memory

theorem Mindful.onLab (hI : Mindful host I) {operation : StateM (Lab σ) α}
    (h : ∀ start, Preserves (Lab.Retains host start) operation) :
    Preserves I (onLab operation : StateM (Station σ β) α) :=
  .modifyGet fun t ht => hI.lab t _ ht (h t.lab t.lab .refl)

theorem Mindful.onLab' (hI : Mindful host I) {operation : StateM (Lab σ) α}
    (h : ∀ start, Preserves (Lab.Retains host start) operation) :
    Upholds I (Station.onLab operation : DeviceStep σ β ε α) :=
  .lift (hI.onLab h)

theorem Mindful.onAside (hI : Mindful host I) (spec : LaunchSpec) (limit : Duration) :
    Preserves I (Station.onLab (Lab.runToCompletion host spec limit).run :
      StateM (Station σ β) _) :=
  .modifyGet fun t ht => hI.aside t spec limit ht

theorem Mindful.onAside' (hI : Mindful host I) (spec : LaunchSpec) (limit : Duration) :
    Upholds I (Station.onLab (Lab.runToCompletion host spec limit).run : DeviceStep σ β ε _) :=
  .lift (hI.onAside spec limit)

theorem Mindful.note (hI : Mindful host I) (level : LogLevel) (message : String) :
    Preserves I (note level message : StateM (Station σ β) Unit) :=
  hI.onLab fun _ => Lab.note_retains level message

theorem Mindful.note' (hI : Mindful host I) (level : LogLevel) (message : String) :
    Upholds I (Station.note level message : DeviceStep σ β ε Unit) :=
  .lift (hI.note level message)

theorem Mindful.setHealth (hI : Mindful host I) (health : HealthState) :
    Preserves I (setHealth health : StateM (Station σ β) Unit) :=
  .modify fun t ht => hI.device t _ ht rfl rfl rfl rfl

theorem Mindful.setHealth' (hI : Mindful host I) (health : HealthState) :
    Upholds I (Station.setHealth health : DeviceStep σ β ε Unit) :=
  .lift (hI.setHealth health)

theorem Sound.onLab (hI : Sound host I) {operation : StateM (Lab σ) α}
    (h : ∀ start, Preserves (Lab.Evolves host start) operation) :
    Preserves I (Station.onLab operation : StateM (Station σ β) α) :=
  .modifyGet fun t ht => hI.lab t _ ht (h t.lab t.lab .refl)

theorem Sound.modifyDevice (hI : Sound host I) {change : Device → Device}
    (h : ∀ d, (change d).slot = d.slot) :
    Preserves I (modifyDevice change : StateM (Station σ β) Unit) :=
  .modify fun t ht => hI.device t _ ht (h t.device)

theorem Sound.modifyDevice' (hI : Sound host I) {change : Device → Device}
    (h : ∀ d, (change d).slot = d.slot) :
    Upholds I (Station.modifyDevice change : DeviceStep σ β ε Unit) :=
  .lift (hI.modifyDevice h)

end Station

open Station

/-! ### Scripted devices -/

namespace Scripted

variable {I : Station σ FaultScript → Prop}

section Mindful

variable (hI : Mindful host I)

include hI

theorem fault_upholds (point : FaultPoint) (package : Option String) :
    Upholds I (fault? point package : DeviceStep σ FaultScript ε (Option DeviceFault)) :=
  .modifyGet fun t ht => hI.memory t _ ht

theorem failAt_upholds (point : FaultPoint) :
    Upholds I (failAt point : DeviceStep σ FaultScript DeviceError Unit) := by
  refine .bind (fault_upholds hI _ _) fun fault => ?_
  cases fault with
  | none => exact .pure
  | some fault => exact .bind .get fun _ => .throw

theorem endProgram_preserves (id : ProcessId) : Preserves I (endProgram host id) :=
  .discard (hI.onLab fun _ => Lab.terminate_retains)

theorem redirect_upholds : Upholds I (backend host).redirect := by
  refine .bind (fault_upholds hI _ _) fun fault => ?_
  cases fault with
  | none => exact hI.setHealth' _
  | some fault => exact .bind .get fun _ => .throw

theorem checkHealth_upholds : Upholds I (backend host).checkHealth := by
  have hrest : Upholds I (do
      if (← fault? .health none).isSome then
        setHealth .unhealthy
        throw (.notLaunched (← get).device.name)
      setHealth .healthy : DeviceStep σ FaultScript DeviceError Unit) := by
    refine .bind (fault_upholds hI _ _) fun fault => ?_
    cases fault with
    | none => exact hI.setHealth' _
    | some fault => exact .bind (hI.setHealth' _) fun _ => .bind .get fun _ => .throw
  refine .bind .get fun t => ?_
  cases t.device.process with
  | none => exact hrest
  | some id =>
      refine .bind (hI.onLab' fun _ => Lab.poll_retains) fun outcome => ?_
      cases outcome with
      | error cause => exact .throw
      | ok outcome =>
          cases outcome with
          | none => exact hrest
          | some outcome => exact .bind .get fun _ => .throw

theorem install_upholds (package path : String) :
    Upholds I ((backend host).install package path) := by
  refine .bind (fault_upholds hI _ _) fun fault => ?_
  cases fault with
  | none => exact .pure
  | some fault => exact .bind .get fun _ => .throw

theorem teardown_preserves : Preserves I (backend host).teardown := by
  refine .bind .get fun t => ?_
  cases t.device.process with
  | none => exact hI.setHealth _
  | some id => exact .bind (endProgram_preserves hI id) fun _ => hI.setHealth _

end Mindful

section Sound

variable (hI : Sound host I)

include hI

theorem startProgram_upholds (argv : List String) : Upholds I (startProgram host argv) := by
  refine .bind .get fun _ => .bind (hI.mindful.onLab' fun _ => Lab.launch_retains _)
    fun launched => ?_
  cases launched with
  | error cause => exact .throw
  | ok id =>
      refine .bind (hI.mindful.onLab' fun _ => Lab.proc_retains) fun process => ?_
      cases process with
      | error cause => exact .throw
      | ok p => exact hI.modifyDevice' fun _ => rfl

theorem launch_upholds : Upholds I (backend host).launch := by
  refine .bind (fault_upholds hI.mindful _ _) fun fault => ?_
  cases fault with
  | none => exact startProgram_upholds hI _
  | some fault =>
      dsimp only
      split
      · exact startProgram_upholds hI _
      · exact .bind .get fun _ => .throw

theorem abortStart_preserves : Preserves I (backend host).abortStart := by
  refine .bind .get fun t => ?_
  cases t.device.process with
  | none => exact hI.mindful.setHealth _
  | some id =>
      exact .bind (hI.modifyDevice fun _ => rfl) fun _ =>
        .bind (endProgram_preserves hI.mindful id) fun _ => hI.mindful.setHealth _

end Sound

end Scripted

/-! ### Emulators -/

namespace EmulatorControl

variable {e : EmulatorControl} {I : Station σ Unit → Prop}

section Mindful

variable (hI : Mindful host I)

include hI

theorem supervising_upholds {operation : Lab.Supervising σ α}
    (h : ∀ start, Preserves (Lab.Retains host start) operation.run) :
    Upholds I (supervising operation) := by
  refine .bind (hI.onLab' h) fun result => ?_
  cases result with
  | ok a => exact .pure
  | error cause => exact .throw

theorem ensureRunning_upholds : Upholds I (ensureRunning host) := by
  refine .bind .get fun t => ?_
  dsimp only
  cases t.device.process with
  | none => exact .throw
  | some id =>
      refine .bind (supervising_upholds hI fun _ => Lab.poll_retains) fun outcome => ?_
      cases outcome with
      | none => exact .pure
      | some outcome => exact .throw

omit hI in
theorem command_upholds (templates : List String) :
    Upholds I (command templates : DeviceStep σ Unit DeviceError (List String)) := by
  refine .bind .get fun t => ?_
  dsimp only
  split
  · exact .pure
  · exact .throw

theorem launchFor_upholds (spec : LaunchSpec) : Upholds I (launchFor host spec) := by
  refine .bind (hI.onLab' fun _ => Lab.launch_retains spec) fun launched => ?_
  cases launched with
  | ok id => exact .pure
  | error cause => exact .throw

theorem runAside_preserves (limit : Duration) (label : String) (templates : List String) :
    Preserves I (runAside host limit label templates) := by
  refine .ite .pure (.bind .get fun t => ?_)
  dsimp only
  split
  · exact hI.note _ _
  · refine .bind (hI.onAside _ limit) fun done => ?_
    cases done with
    | error cause => exact hI.note _ _
    | ok done => exact .ite (hI.note _ _) (hI.note _ _)

theorem noteStatus_preserves : Preserves I (noteStatus host e) := by
  refine .bind .get fun t => .bind (hI.onLab fun _ => Console.statusReport_retains _ _ _)
    fun report => ?_
  cases report with
  | ok report =>
      exact .bind (hI.note _ _) fun _ => .modify fun t ht => hI.device t _ ht rfl rfl rfl rfl
  | error cause => exact hI.note _ _

theorem endProcess_preserves (id : ProcessId) (what : String) :
    Preserves I (endProcess host id what) := by
  refine .bind (hI.onLab fun _ => Lab.terminate_retains) fun ended => ?_
  cases ended with
  | ok _ => exact .pure
  | error cause => exact hI.note _ _

theorem noteSwept_upholds (swept : Except IoError Nat) :
    Upholds I (noteSwept swept : DeviceStep σ Unit DeviceError Unit) := by
  unfold noteSwept
  split
  · exact .pure
  · exact hI.note' _ _
  · exact hI.note' _ _

theorem stopEmulator_preserves : Preserves I (stopEmulator host e) := by
  refine .bind .get fun t => ?_
  cases t.device.process with
  | none => exact .pure
  | some id =>
      refine .bind (hI.onLab fun _ => Lab.isRunning_retains) fun running =>
        .ite ?_ (endProcess_preserves hI id _)
      exact .bind (noteStatus_preserves hI) fun _ => endProcess_preserves hI id _

theorem acquire_upholds : Upholds I (backend host e).acquire := by
  unfold backend
  cases e.settings.processName with
  | none => exact .pure
  | some pattern =>
      exact .bind (hI.onLab' fun _ => Lab.sweep_retains pattern) fun swept =>
        noteSwept_upholds hI swept

theorem redirect_upholds : Upholds I (backend host e).redirect := by
  refine .bind (ensureRunning_upholds hI) fun _ => .bind .get fun t =>
    .bind (hI.onLab' fun _ => Console.redirect_retains _ _ _ _ _) fun redirected => ?_
  cases redirected with
  | ok _ => exact hI.setHealth' _
  | error cause => exact .throw

theorem checkHealth_upholds : Upholds I (backend host e).checkHealth := by
  have hrest : Upholds I (do
      ExceptT.lift (runAside host e.timing.installTimeout "shell check" e.settings.healthCommand)
      ExceptT.lift (noteStatus host e)
      setHealth .healthy : DeviceStep σ Unit DeviceError Unit) :=
    .bind (.lift (runAside_preserves hI _ _ _)) fun _ =>
      .bind (.lift (noteStatus_preserves hI)) fun _ => hI.setHealth' _
  refine .bind (ensureRunning_upholds hI) fun _ => .bind .get fun t =>
    .bind (hI.onLab' fun _ => Agent.probe_retains _ _ _ _) fun answer => ?_
  cases answer with
  | ok _ => exact hrest
  | error cause =>
      have hignored : Upholds I (do
          note .warn "agent not answering, continuing"
          ExceptT.lift
            (runAside host e.timing.installTimeout "shell check" e.settings.healthCommand)
          ExceptT.lift (noteStatus host e)
          setHealth .healthy : DeviceStep σ Unit DeviceError Unit) :=
        .bind (hI.note' _ _) fun _ => hrest
      exact .ite (.bind (hI.setHealth' _) fun _ => .bind .throw fun _ => hignored) hignored

theorem install_upholds (package path : String) :
    Upholds I ((backend host e).install package path) := by
  refine .bind .get fun t =>
    .bind (hI.onLab' fun _ => Lab.sys_retains (.pathExists path)) fun found => ?_
  refine .ite ?_ (.bind .throw fun _ => ?_)
  all_goals
    dsimp only
    split
    · exact .throw
    · refine .bind (hI.note' _ _) fun _ => .bind (hI.onAside' _ _) fun done => ?_
      cases done with
      | error cause => exact .throw
      | ok done => exact .ite .throw (.ite .throw .pure)

theorem collectDiagnostics_preserves : Preserves I (backend host e).collectDiagnostics := by
  refine .bind .get fun t => ?_
  cases t.device.process with
  | none => exact noteStatus_preserves hI
  | some id =>
      refine .bind (hI.onLab fun _ => Lab.readOutput_retains) fun output => ?_
      cases output with
      | error cause => exact .bind (hI.note _ _) fun _ => noteStatus_preserves hI
      | ok output => exact .bind (hI.note _ _) fun _ => noteStatus_preserves hI

end Mindful

section Sound

variable (hI : Sound host I)

include hI

theorem launch_upholds : Upholds I (backend host e).launch :=
  .bind (command_upholds _) fun _ => .bind .get fun _ =>
    .bind (launchFor_upholds hI.mindful _) fun _ =>
      .bind (supervising_upholds hI.mindful fun _ => Lab.proc_retains) fun _ =>
        hI.modifyDevice' fun _ => rfl

theorem abortStart_preserves : Preserves I (backend host e).abortStart := by
  refine .bind .get fun t => ?_
  cases t.device.process with
  | none => exact hI.mindful.setHealth _
  | some id =>
      exact .bind (hI.modifyDevice fun _ => rfl) fun _ =>
        .bind (endProcess_preserves hI.mindful id _) fun _ => hI.mindful.setHealth _

theorem startLogCapture_upholds : Upholds I (backend host e).startLogCapture :=
  .ite .pure (.bind (command_upholds _) fun _ => .bind .get fun _ =>
    .bind (launchFor_upholds hI.mindful _) fun _ => hI.modifyDevice' fun _ => rfl)

theorem saveLog_preserves (id : ProcessId) : Preserves I (saveLog host e id) := by
  refine .bind (endProcess_preserves hI.mindful id _) fun _ => .bind .get fun t =>
    .bind (hI.mindful.onLab fun _ => Lab.preserve_retains _ _) fun saved => ?_
  have hrelease : Preserves I (discard <| onLab (Lab.release host id).run :
      StateM (Station σ Unit) Unit) :=
    .discard (hI.onLab fun _ => Lab.release_evolves)
  cases saved with
  | ok _ => exact .bind (hI.mindful.note _ _) fun _ => hrelease
  | error cause => exact .bind (hI.mindful.note _ _) fun _ => hrelease

theorem stopCompanion_preserves : Preserves I (stopCompanion host e) := by
  refine .bind .get fun t => ?_
  cases t.device.logcat with
  | none => exact .pure
  | some id => exact .bind (hI.modifyDevice fun _ => rfl) fun _ => saveLog_preserves hI id

theorem teardown_preserves : Preserves I (backend host e).teardown :=
  .bind (stopCompanion_preserves hI) fun _ => .bind (stopEmulator_preserves hI.mindful) fun _ =>
    .bind (hI.mindful.setHealth _) fun _ => hI.mindful.note _ _

end Sound

end EmulatorControl

/-! ### Every backend that there is -/

namespace Backend

/-- The backends that there are. -/
inductive Supplied (host : Host σ) : {β : Type} → Backend σ β → Prop where
  | scripted : Supplied host (Scripted.backend host)
  | emulators (e : EmulatorControl) : Supplied host (EmulatorControl.backend host e)
  | cancelling {β : Type} {b : Backend σ β} (point : CancelPoint) (h : Supplied host b) :
      Supplied host (b.cancelling host point)

/-- The steps of the backend that leave the handles of the device alone keep a statement about
stations. -/
structure Heeded (b : Backend σ β) (I : Station σ β → Prop) : Prop where
  acquire : Upholds I b.acquire
  redirect : Upholds I b.redirect
  checkHealth : Upholds I b.checkHealth
  install : ∀ package path, Upholds I (b.install package path)
  collectDiagnostics : Preserves I b.collectDiagnostics

/-- Every step of the backend keeps a statement about stations. -/
structure Upheld (b : Backend σ β) (I : Station σ β → Prop) : Prop where
  acquire : Upholds I b.acquire
  launch : Upholds I b.launch
  redirect : Upholds I b.redirect
  abortStart : Preserves I b.abortStart
  checkHealth : Upholds I b.checkHealth
  startLogCapture : Upholds I b.startLogCapture
  install : ∀ package path, Upholds I (b.install package path)
  collectDiagnostics : Preserves I b.collectDiagnostics
  teardown : Preserves I b.teardown

section Cancelling

variable {I : Station σ (β × Nat) → Prop}

theorem countCall_preserves (hI : Mindful host I) (point : CancelPoint) (kind : CallKind) :
    Preserves I (countCall host point kind) := by
  refine Leads.bind (Q := fun s t => t = s ∧ I t) (.get fun t ht => ⟨rfl, ht⟩) fun s =>
    .ite (fun _ => ?_) fun _ => .pure fun t ht => ht.2
  refine Leads.bind (Q := fun _ => I) (.set fun t ht => ?_) fun _ => .ite (fun _ => ?_) fun _ => ?_
  · obtain ⟨rfl, ht⟩ := ht
    exact hI.memory t _ ht
  · exact hI.onLab fun _ => Lab.sys_retains .requestCancel
  · exact .pure fun _ ht => ht

/-- What is true of a station is told of the part that the inner backend knows. -/
theorem Sound.inner (hI : Sound host I) (count : Nat) :
    Sound host fun t : Station σ β => I ⟨t.device, (t.memory, count), t.lab⟩ where
  lab _ lab ht h := hI.lab _ lab ht h
  device _ device ht h := hI.device _ device ht h
  memory _ memory ht := hI.memory _ (memory, count) ht

theorem Mindful.inner (hI : Mindful host I) (count : Nat) :
    Mindful host fun t : Station σ β => I ⟨t.device, (t.memory, count), t.lab⟩ where
  lab _ lab ht h := hI.lab _ lab ht h
  aside _ spec limit ht := hI.aside _ spec limit ht
  device _ device ht := hI.device _ device ht
  memory _ memory ht := hI.memory _ (memory, count) ht

theorem withInner_preserves {operation : StateM (Station σ β) α}
    (h : ∀ count, Preserves (fun t => I ⟨t.device, (t.memory, count), t.lab⟩) operation) :
    Preserves I (withInner operation) :=
  fun t ht => h t.memory.2 ⟨t.device, t.memory.1, t.lab⟩ ht

/-- A step that is counted keeps what the step of the inner backend keeps. -/
theorem counted_preserves (hI : Mindful host I) (point : CancelPoint) (kind : CallKind)
    {operation : StateM (Station σ β) α}
    (h : ∀ count, Preserves (fun t => I ⟨t.device, (t.memory, count), t.lab⟩) operation) :
    Preserves I (countCall host point kind >>= fun _ => withInner operation) :=
  .bind (countCall_preserves hI point kind) fun _ => withInner_preserves h

end Cancelling

/-- The steps of a backend that there is that leave the handles of the device alone keep what is
mindful. -/
theorem Supplied.heeds {b : Backend σ β} (h : Supplied host b) {I : Station σ β → Prop}
    (hI : Mindful host I) : b.Heeded I := by
  induction h with
  | scripted =>
      exact
        { acquire := Scripted.failAt_upholds hI _
          redirect := Scripted.redirect_upholds hI
          checkHealth := Scripted.checkHealth_upholds hI
          install := Scripted.install_upholds hI
          collectDiagnostics := .pure }
  | emulators e =>
      exact
        { acquire := EmulatorControl.acquire_upholds hI
          redirect := EmulatorControl.redirect_upholds hI
          checkHealth := EmulatorControl.checkHealth_upholds hI
          install := EmulatorControl.install_upholds hI
          collectDiagnostics := EmulatorControl.collectDiagnostics_preserves hI }
  | @cancelling _ b point h ih =>
      have hb (count : Nat) := ih (Mindful.inner hI count)
      exact
        { acquire := .of_run
            (counted_preserves hI point .acquire fun count => .attempt (hb count).acquire)
          redirect := .of_run
            (counted_preserves hI point .redirect fun count => .attempt (hb count).redirect)
          checkHealth := .of_run
            (counted_preserves hI point .checkHealth fun count => .attempt (hb count).checkHealth)
          install := fun package path => .of_run (counted_preserves hI point .install
            fun count => .attempt ((hb count).install package path))
          collectDiagnostics := counted_preserves hI point .collectDiagnostics
            fun count => (hb count).collectDiagnostics }

/-- Every step of a backend that there is keeps what survives changes of the lab. -/
theorem Supplied.upholds {b : Backend σ β} (h : Supplied host b) {I : Station σ β → Prop}
    (hI : Sound host I) : b.Upheld I := by
  suffices hrest : Upholds I b.launch ∧ Preserves I b.abortStart ∧ Upholds I b.startLogCapture ∧
      Preserves I b.teardown by
    have hb := h.heeds hI.mindful
    exact ⟨hb.acquire, hrest.1, hb.redirect, hrest.2.1, hb.checkHealth, hrest.2.2.1, hb.install,
      hb.collectDiagnostics, hrest.2.2.2⟩
  induction h with
  | scripted =>
      exact ⟨Scripted.launch_upholds hI, Scripted.abortStart_preserves hI, .pure,
        Scripted.teardown_preserves hI.mindful⟩
  | emulators e =>
      exact ⟨EmulatorControl.launch_upholds hI, EmulatorControl.abortStart_preserves hI,
        EmulatorControl.startLogCapture_upholds hI, EmulatorControl.teardown_preserves hI⟩
  | @cancelling _ b point h ih =>
      have hb (count : Nat) := ih (Sound.inner hI count)
      exact ⟨.of_run (counted_preserves hI.mindful point .launch
          fun count => .attempt (hb count).1),
        counted_preserves hI.mindful point .abortStart fun count => (hb count).2.1,
        .of_run (counted_preserves hI.mindful point .startLogCapture
          fun count => .attempt (hb count).2.2.1),
        counted_preserves hI.mindful point .teardown fun count => (hb count).2.2.2⟩

end Backend

end DeviceLab
