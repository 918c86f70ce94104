import DeviceLab.Run.Controller

/-! # Runs that differ in what the backend remembers

A run hands the memory of its backend on and never looks at it.  So if one backend does the same as
another one and only remembers more, a run with the first is a run with the second, apart from what
is remembered.  In this way a backend may be made to write down what it does, and what is written
down tells something about the run as it is without.

* `Mirrors f x' x`: seen through `f`, the operation `x'` is `x`; `Echoes` is the same for operations
  that may fail.  Each way to make an operation has one rule.
* `Backend.Mirrors`: each step of one backend mirrors the step of the other.
* `startWithin_echoes`: then so does a whole run. -/

namespace DeviceLab

variable {S S' ε ε' α γ : Type} {f : S' → S}

/-- Seen through `f`, the first operation is the second. -/
def Mirrors (f : S' → S) (x' : StateM S' α) (x : StateM S α) : Prop :=
  ∀ s, x.run (f s) = ((x'.run s).1, f (x'.run s).2)

/-- The same for operations that may fail. -/
def Echoes (f : S' → S) (x' : ExceptT ε (StateM S') α) (x : ExceptT ε (StateM S) α) : Prop :=
  Mirrors f x'.run x.run

/-! ### Operations that cannot fail -/

theorem Mirrors.pure {a : α} : Mirrors f (Pure.pure a) (Pure.pure a) := fun _ => rfl

theorem Mirrors.bind {x' : StateM S' α} {x : StateM S α} {g' : α → StateM S' γ} {g : α → StateM S γ}
    (hx : Mirrors f x' x) (hg : ∀ a, Mirrors f (g' a) (g a)) :
    Mirrors f (x' >>= g') (x >>= g) := by
  intro s
  change (g (x.run (f s)).1).run (x.run (f s)).2 = _
  rw [hx s]
  exact hg _ _

theorem Mirrors.get {g' : S' → StateM S' α} {g : S → StateM S α}
    (h : ∀ s, Mirrors f (g' s) (g (f s))) : Mirrors f (MonadState.get >>= g') (MonadState.get >>= g) :=
  fun s => h s s

theorem Mirrors.modify {k' : S' → S'} {k : S → S} (h : ∀ s, k (f s) = f (k' s)) :
    Mirrors f (modify k' : StateM S' PUnit) (modify k) :=
  fun s => congrArg (Prod.mk PUnit.unit) (h s)

theorem Mirrors.modifyGet {k' : S' → α × S'} {k : S → α × S}
    (h : ∀ s, k (f s) = ((k' s).1, f (k' s).2)) :
    Mirrors f (modifyGet k' : StateM S' α) (modifyGet k) := h

theorem Mirrors.ite {c : Prop} [Decidable c] {x' y' : StateM S' α} {x y : StateM S α}
    (hx : Mirrors f x' x) (hy : Mirrors f y' y) :
    Mirrors f (if c then x' else y') (if c then x else y) := by
  split
  · exact hx
  · exact hy

theorem Mirrors.discard {x' : StateM S' α} {x : StateM S α} (h : Mirrors f x' x) :
    Mirrors f (discard x') (discard x) := by
  intro s
  have hs := h s
  change (PUnit.unit, (x.run (f s)).2) = (PUnit.unit, f (x'.run s).2)
  rw [hs]

theorem Mirrors.forM {l : List γ} {g' : γ → StateM S' PUnit} {g : γ → StateM S PUnit}
    (h : ∀ a, Mirrors f (g' a) (g a)) : Mirrors f (l.forM g') (l.forM g) := by
  induction l with
  | nil => exact .pure
  | cons a l ih => exact .bind (h a) fun _ => ih

/-! ### Operations that may fail -/

theorem Echoes.pure {a : α} :
    Echoes f (Pure.pure a : ExceptT ε (StateM S') α) (Pure.pure a) := fun _ => rfl

theorem Echoes.throw {e : ε} :
    Echoes f (throw e : ExceptT ε (StateM S') α) (throw e) := fun _ => rfl

theorem Echoes.bind {x' : ExceptT ε (StateM S') α} {x : ExceptT ε (StateM S) α}
    {g' : α → ExceptT ε (StateM S') γ} {g : α → ExceptT ε (StateM S) γ} (hx : Echoes f x' x)
    (hg : ∀ a, Echoes f (g' a) (g a)) : Echoes f (x' >>= g') (x >>= g) := by
  change Mirrors f (x'.run >>= ExceptT.bindCont g') (x.run >>= ExceptT.bindCont g)
  refine .bind hx fun result => ?_
  cases result with
  | ok a => exact hg a
  | error e => exact Mirrors.pure

theorem Echoes.get {g' : S' → ExceptT ε (StateM S') α} {g : S → ExceptT ε (StateM S) α}
    (h : ∀ s, Echoes f (g' s) (g (f s))) :
    Echoes f (MonadState.get >>= g') (MonadState.get >>= g) :=
  fun s => h s s

theorem Echoes.lift {x' : StateM S' α} {x : StateM S α} (h : Mirrors f x' x) :
    Echoes f (ExceptT.lift x' : ExceptT ε (StateM S') α) (ExceptT.lift x) :=
  Mirrors.bind h fun _ => .pure

theorem Echoes.modify {k' : S' → S'} {k : S → S} (h : ∀ s, k (f s) = f (k' s)) :
    Echoes f (modify k' : ExceptT ε (StateM S') PUnit) (modify k) :=
  Echoes.lift (Mirrors.modify h)

theorem Echoes.set {t' : S'} {t : S} (h : t = f t') :
    Echoes f (set t' : ExceptT ε (StateM S') PUnit) (set t) := by
  intro s
  rw [h]
  rfl

theorem Echoes.ite {c : Prop} [Decidable c] {x' y' : ExceptT ε (StateM S') α}
    {x y : ExceptT ε (StateM S) α} (hx : Echoes f x' x) (hy : Echoes f y' y) :
    Echoes f (if c then x' else y') (if c then x else y) := by
  split
  · exact hx
  · exact hy

theorem Echoes.adapt {x' : ExceptT ε (StateM S') α} {x : ExceptT ε (StateM S) α} {g : ε → ε'}
    (h : Echoes f x' x) : Echoes f (ExceptT.adapt g x') (ExceptT.adapt g x) := by
  intro s
  have hs := h s
  change ((x.run.run (f s)).1.mapError g, (x.run.run (f s)).2) = _
  rw [hs]
  rfl

theorem run_tryCatch (x : ExceptT ε (StateM S) α) (g : ε → ExceptT ε (StateM S) α) (s : S) :
    (tryCatch x g).run.run s =
      (match (x.run.run s).1 with
        | .ok a => (Pure.pure (.ok a) : StateM S (Except ε α))
        | .error e => (g e).run).run (x.run.run s).2 := rfl

theorem Echoes.tryCatch {x' : ExceptT ε (StateM S') α} {x : ExceptT ε (StateM S) α}
    {g' : ε → ExceptT ε (StateM S') α} {g : ε → ExceptT ε (StateM S) α} (hx : Echoes f x' x)
    (hg : ∀ e, Echoes f (g' e) (g e)) : Echoes f (tryCatch x' g') (tryCatch x g) := by
  intro s
  have hs := hx s
  rw [run_tryCatch, run_tryCatch, hs]
  cases (x'.run.run s).1 with
  | ok a => rfl
  | error e => exact hg e _

theorem Echoes.forM {l : List γ} {g' : γ → ExceptT ε (StateM S') PUnit}
    {g : γ → ExceptT ε (StateM S) PUnit} (h : ∀ a, Echoes f (g' a) (g a)) :
    Echoes f (l.forM g') (l.forM g) := by
  induction l with
  | nil => exact .pure
  | cons a l ih => exact .bind (h a) fun _ => ih

/-! ### Steps and runs -/

variable {σ β β' : Type}

/-- A station with the memory that a function makes of the one it has. -/
def Station.seen (f : β' → β) (t : Station σ β') : Station σ β := ⟨t.device, f t.memory, t.lab⟩

/-- A run with the memory that a function makes of the one it has. -/
def Run.seen (f : β' → β) (r : Run σ β') : Run σ β :=
  { lab := r.lab, memory := f r.memory, machine := r.machine, devices := r.devices,
    phases := r.phases, results := r.results, logNames := r.logNames, resultLogs := r.resultLogs,
    moves := r.moves }

/-- Each step of the first backend mirrors that of the second. -/
structure Backend.Mirrors (f : β' → β) (b' : Backend σ β') (b : Backend σ β) : Prop where
  acquire : Echoes (Station.seen f) b'.acquire b.acquire
  launch : Echoes (Station.seen f) b'.launch b.launch
  redirect : Echoes (Station.seen f) b'.redirect b.redirect
  abortStart : DeviceLab.Mirrors (Station.seen f) b'.abortStart b.abortStart
  checkHealth : Echoes (Station.seen f) b'.checkHealth b.checkHealth
  startLogCapture : Echoes (Station.seen f) b'.startLogCapture b.startLogCapture
  install : ∀ package path,
    Echoes (Station.seen f) (b'.install package path) (b.install package path)
  collectDiagnostics : DeviceLab.Mirrors (Station.seen f) b'.collectDiagnostics b.collectDiagnostics
  teardown : DeviceLab.Mirrors (Station.seen f) b'.teardown b.teardown

namespace Run

variable {f : β' → β} {host : Host σ} {plan : RunPlan} {b' : Backend σ β'} {b : Backend σ β}

/-! ### Small steps -/

theorem onLab_mirrors (operation : StateM (Lab σ) α) :
    Mirrors (seen f) (onLab operation : StateM (Run σ β') α) (onLab operation) :=
  .modifyGet fun _ => rfl

theorem onLab_echoes (operation : StateM (Lab σ) α) :
    Echoes (seen f) (onLab operation : ExceptT ε (StateM (Run σ β')) α) (onLab operation) :=
  .lift (onLab_mirrors operation)

theorem addMove_mirrors (move : Move) :
    Mirrors (seen f) (addMove move : StateM (Run σ β') Unit) (addMove move) :=
  .modify fun _ => rfl

theorem addMove_echoes (move : Move) :
    Echoes (seen f) (addMove move : ExceptT ε (StateM (Run σ β')) Unit) (addMove move) :=
  .lift (addMove_mirrors move)

theorem look_mirrors : Mirrors (seen f) (look host : StateM (Run σ β') Bool) (look host) :=
  .modifyGet fun _ => rfl

theorem addPhase_mirrors (outcome : PhaseOutcome) :
    Mirrors (seen f) (addPhase outcome : StateM (Run σ β') Unit) (addPhase outcome) :=
  .modify fun _ => rfl

theorem addResult_mirrors (result : SuiteSummary) :
    Mirrors (seen f) (addResult result : StateM (Run σ β') Unit) (addResult result) :=
  .modify fun _ => rfl

theorem addResultOf_mirrors (id : ProcessId) (result : SuiteSummary) :
    Mirrors (seen f) (addResultOf id result : StateM (Run σ β') Unit) (addResultOf id result) :=
  .modify fun _ => rfl

theorem perform_mirrors {kind : CallKind} {package : Option String} {ending : α → CallResult}
    {step' : StateM (Station σ β') α} {step : StateM (Station σ β) α}
    (h : Mirrors (Station.seen f) step' step) (index : Nat) :
    Mirrors (seen f) (perform kind package ending step' index : StateM (Run σ β') (Option α))
      (perform kind package ending step index) := by
  refine .modifyGet fun r => ?_
  have hdevices : (seen f r).devices = r.devices := rfl
  rw [hdevices]
  cases r.devices[index]? with
  | none => rfl
  | some device =>
      have hstep := h ⟨device, r.memory, r.lab⟩
      rw [StateT.run, StateT.run] at hstep
      change (step ⟨device, f r.memory, r.lab⟩) = _ at hstep
      dsimp only
      rw [show (seen f r).memory = f r.memory from rfl, show (seen f r).lab = r.lab from rfl, hstep]
      rfl

theorem performPlain_mirrors {kind : CallKind} {step' : StateM (Station σ β') Unit}
    {step : StateM (Station σ β) Unit} (h : Mirrors (Station.seen f) step' step) (index : Nat) :
    Mirrors (seen f) (performPlain kind step' index) (performPlain kind step index) :=
  .discard (perform_mirrors h index)

theorem performStep_echoes {kind : CallKind} {step' : DeviceStep σ β' DeviceError Unit}
    {step : DeviceStep σ β DeviceError Unit} (h : Echoes (Station.seen f) step' step)
    (index : Nat) :
    Echoes (seen f) (performStep kind step' index) (performStep kind step index) := by
  refine .bind (.lift (perform_mirrors h index)) fun outcome => ?_
  split
  · exact .throw
  · exact .pure

theorem stopCancelled_echoes :
    Echoes (seen f) (stopCancelled : Running σ β' α) stopCancelled :=
  .get fun _ => .throw

theorem sleepUntil_mirrors (deadline : Instant) (slices : Nat) :
    Mirrors (seen f) (sleepUntil host deadline slices : StateM (Run σ β') Bool)
      (sleepUntil host deadline slices) := by
  induction slices with
  | zero => exact look_mirrors
  | succ slices ih =>
      exact .bind look_mirrors fun _ => .ite .pure (.bind (onLab_mirrors _) fun _ =>
        .ite .pure (.bind (onLab_mirrors _) fun _ => ih))

theorem sleep_echoes (d : Duration) :
    Echoes (seen f) (sleep host d : Running σ β' Bool) (sleep host d) := by
  refine .bind (.lift (onLab_mirrors _)) fun now => ?_
  cases now.after d with
  | error cause => exact .throw
  | ok deadline => exact .lift (sleepUntil_mirrors _ _)

theorem enter_echoes (target : Phase) :
    Echoes (seen f) (enter ⟨host, b', plan⟩ target) (enter ⟨host, b, plan⟩ target) := by
  refine .bind (.lift look_mirrors) fun _ => .ite (.bind stopCancelled_echoes fun _ => ?_) ?_
  all_goals
    refine .get fun r => ?_
    dsimp only
    rw [show (seen f r).machine = r.machine from rfl]
    split
    · exact .modify fun _ => rfl
    · exact .throw

theorem follow_mirrors (target : Phase) :
    Mirrors (seen f) (follow target : StateM (Run σ β') Unit) (follow target) := by
  refine .modify fun r => ?_
  rw [show (seen f r).machine = r.machine from rfl]
  split <;> rfl

/-! ### The devices -/

section Devices

variable (hb : b'.Mirrors f b)

include hb

theorem acquireOne_echoes (index : Nat) (slot : DeviceSlot) :
    Echoes (seen f) (acquireOne ⟨host, b', plan⟩ index slot)
      (acquireOne ⟨host, b, plan⟩ index slot) := by
  refine .get fun r => ?_
  have hstep := hb.acquire ⟨{ index, slot }, r.memory, r.lab⟩
  rw [StateT.run, StateT.run] at hstep
  dsimp only
  rw [show (seen f r).memory = f r.memory from rfl, show (seen f r).lab = r.lab from rfl]
  change b.acquire.run ⟨{ index, slot }, f r.memory, r.lab⟩ = _ at hstep
  rw [hstep]
  refine .bind (.set rfl) fun _ => ?_
  dsimp only
  split
  · exact .modify fun _ => rfl
  · exact .throw

theorem acquireDevices_echoes :
    Echoes (seen f) (acquireDevices ⟨host, b', plan⟩) (acquireDevices ⟨host, b, plan⟩) := by
  have hfrom : ∀ (slots : List DeviceSlot) (index : Nat), Echoes (seen f)
      (acquireFrom ⟨host, b', plan⟩ index slots) (acquireFrom ⟨host, b, plan⟩ index slots) := by
    intro slots
    induction slots with
    | nil => exact fun _ => .pure
    | cons slot rest ih => exact fun index => .bind (acquireOne_echoes hb index slot) fun _ => ih _
  exact hfrom _ 0

theorem startAttempt_echoes :
    Echoes (seen f) (startAttempt ⟨host, b', plan⟩) (startAttempt ⟨host, b, plan⟩) :=
  .get fun _ => .bind (.forM (performStep_echoes hb.launch)) fun _ =>
    .bind (.forM (performStep_echoes hb.redirect)) fun _ =>
      .forM (performStep_echoes hb.checkHealth)

theorem abortAttempt_mirrors :
    Mirrors (seen f) (abortAttempt ⟨host, b', plan⟩) (abortAttempt ⟨host, b, plan⟩) :=
  .get fun _ => .forM (performPlain_mirrors hb.abortStart)

theorem startFrom_echoes (remaining attempt : Nat) :
    Echoes (seen f) (startFrom ⟨host, b', plan⟩ remaining attempt)
      (startFrom ⟨host, b, plan⟩ remaining attempt) := by
  rw [startFrom.eq_def, startFrom.eq_def]
  refine .bind (addMove_echoes _) fun _ => .bind (.lift (startAttempt_echoes hb)) fun outcome => ?_
  cases outcome with
  | ok _ => exact .get fun _ => .lift (addPhase_mirrors _)
  | error e =>
      refine .bind (.lift (abortAttempt_mirrors hb)) fun _ => .ite (.bind .throw fun _ => ?_) ?_
      all_goals
        cases remaining with
        | zero => exact .throw
        | succ remaining =>
            exact .bind (sleep_echoes _) fun _ =>
              .ite (.bind stopCancelled_echoes fun _ => startFrom_echoes remaining (attempt + 1))
                (startFrom_echoes remaining (attempt + 1))
termination_by remaining

theorem startDevices_echoes :
    Echoes (seen f) (startDevices ⟨host, b', plan⟩) (startDevices ⟨host, b, plan⟩) :=
  startFrom_echoes hb _ 1

theorem startLogCapture_mirrors :
    Mirrors (seen f) (startLogCapture ⟨host, b', plan⟩) (startLogCapture ⟨host, b, plan⟩) :=
  .get fun _ => .forM fun _ => .discard (perform_mirrors hb.startLogCapture _)

theorem installOne_mirrors (index : Nat) (package path : String) :
    Mirrors (seen f) (installOne ⟨host, b', plan⟩ index package path)
      (installOne ⟨host, b, plan⟩ index package path) := by
  refine .bind (perform_mirrors (hb.install package path) index) fun outcome => ?_
  split <;> exact .pure

theorem installRest_mirrors (index : Nat) (requires : List String) (tally : InstallTally)
    (packages : List (String × Package)) :
    Mirrors (seen f) (installRest ⟨host, b', plan⟩ index requires tally packages)
      (installRest ⟨host, b, plan⟩ index requires tally packages) := by
  induction packages generalizing tally with
  | nil => exact .pure
  | cons entry rest ih =>
      obtain ⟨name, package⟩ := entry
      refine .ite (.bind (installOne_mirrors hb _ _ _) fun outcome => ?_) (ih tally)
      cases outcome with
      | none => exact ih _
      | some e => exact .ite .pure (ih _)

theorem installOn_mirrors (index : Nat) (suite : String) (tally : InstallTally) :
    Mirrors (seen f) (installOn ⟨host, b', plan⟩ index suite tally)
      (installOn ⟨host, b, plan⟩ index suite tally) := by
  refine .get fun _ => .ite .pure (.bind (installOne_mirrors hb _ _ _) fun outcome => ?_)
  cases outcome with
  | none => exact installRest_mirrors hb _ _ _ _
  | some e => exact .pure

theorem installArtifacts_mirrors :
    Mirrors (seen f) (installArtifacts ⟨host, b', plan⟩) (installArtifacts ⟨host, b, plan⟩) := by
  have hfrom : ∀ (suites : List String) (index : Nat) (tally : InstallTally), Mirrors (seen f)
      (installFrom ⟨host, b', plan⟩ index tally suites)
      (installFrom ⟨host, b, plan⟩ index tally suites) := by
    intro suites
    induction suites with
    | nil => exact fun _ _ => .pure
    | cons suite rest ih =>
        exact fun index tally => .bind (installOn_mirrors hb _ _ _) fun _ => ih _ _
  exact .bind (hfrom _ _ _) fun _ => .bind (addPhase_mirrors _) fun _ => .pure

end Devices

/-! ### The suites -/

theorem launchSuite_echoes (suite : String) (index attempt : Nat) :
    Echoes (seen f) (launchSuite ⟨host, b', plan⟩ suite index attempt)
      (launchSuite ⟨host, b, plan⟩ suite index attempt) := by
  refine .get fun r => ?_
  rw [show (seen f r).devices = r.devices from rfl]
  split
  · exact .throw
  · refine .bind (.adapt fun _ => rfl) fun spec => .bind (.adapt fun _ => rfl) fun command =>
      .bind (onLab_echoes _) fun launched => ?_
    split
    · exact .throw
    · refine .bind (addMove_echoes _) fun _ => ?_
      dsimp only
      split
      · exact .throw
      · exact .bind (onLab_echoes _) fun _ => .bind (.modify fun _ => rfl) fun _ => .pure

theorem trigger_echoes (suite : String) (index attempt : Nat) :
    Echoes (seen f) (trigger ⟨host, b', plan⟩ suite index attempt)
      (trigger ⟨host, b, plan⟩ suite index attempt) :=
  .tryCatch (launchSuite_echoes _ _ _) fun _ => .bind (addMove_echoes _) fun _ => .throw

theorem elapsedMs_mirrors (run : SuiteRun) :
    Mirrors (seen f) (elapsedMs ⟨host, b', plan⟩ run) (elapsedMs ⟨host, b, plan⟩ run) :=
  .bind (onLab_mirrors _) fun _ => .pure

theorem noteMisstep_mirrors (step : Except SuiteTransitionError SuiteRun) :
    Mirrors (seen f) (noteMisstep step : StateM (Run σ β') Unit) (noteMisstep step) := by
  cases step with
  | ok next => exact .pure
  | error cause => exact addMove_mirrors _

theorem cancelRuns_mirrors (active : List SuiteRun) :
    Mirrors (seen f) (cancelRuns ⟨host, b', plan⟩ active) (cancelRuns ⟨host, b, plan⟩ active) :=
  .forM fun run => .bind (onLab_mirrors _) fun _ => .bind (noteMisstep_mirrors _) fun _ =>
    .bind (addMove_mirrors _) fun _ => .bind (elapsedMs_mirrors run) fun _ =>
      addResultOf_mirrors _ _

theorem sequel_echoes (run : SuiteRun) (reason : Option String) (c : Classification)
    (output : String) :
    Echoes (seen f) (sequel ⟨host, b', plan⟩ run reason c output)
      (sequel ⟨host, b, plan⟩ run reason c output) := by
  unfold sequel
  cases reason with
  | some reason => exact .pure
  | none =>
      refine .ite (.ite ?_ .pure) .pure
      refine .bind (.lift (trigger_echoes _ _ _)) fun next => ?_
      split
      · exact .pure
      · exact .throw
      · exact .pure

theorem lose_mirrors (run : SuiteRun) (cause : SupervisorError) :
    Mirrors (seen f) (lose ⟨host, b', plan⟩ run cause) (lose ⟨host, b, plan⟩ run cause) :=
  .bind (.discard (onLab_mirrors _)) fun _ => .bind (addMove_mirrors _) fun _ =>
    addResultOf_mirrors _ _

theorem beat_mirrors (heartbeat : Heartbeat) :
    Mirrors (seen f) (beat ⟨host, b', plan⟩ heartbeat) (beat ⟨host, b, plan⟩ heartbeat) :=
  .bind (onLab_mirrors _) fun _ => .ite (.bind (onLab_mirrors _) fun _ => .pure) .pure

theorem awaitLook_echoes (active : List SuiteRun) :
    Echoes (seen f) (awaitLook ⟨host, b', plan⟩ active) (awaitLook ⟨host, b, plan⟩ active) :=
  .bind (sleep_echoes _) fun _ =>
    .ite (.bind (.lift (cancelRuns_mirrors active)) fun _ => stopCancelled_echoes) .pure

section Suites

variable (hb : b'.Mirrors f b)

include hb

theorem complete_echoes (run : SuiteRun) (outcome : ExitOutcome) (reason : Option String) :
    Echoes (seen f) (complete ⟨host, b', plan⟩ run outcome reason)
      (complete ⟨host, b, plan⟩ run outcome reason) := by
  refine .bind (.lift (noteMisstep_mirrors _)) fun _ => .bind (onLab_echoes _) fun _ =>
    .bind (addMove_echoes _) fun _ =>
      .bind (.lift (performPlain_mirrors hb.collectDiagnostics _)) fun _ =>
        .bind (sequel_echoes _ _ _ _) fun next => ?_
  cases next with
  | rerun next => exact .pure
  | recorded kind =>
      exact .bind (.lift (noteMisstep_mirrors _)) fun _ =>
        .bind (.lift (elapsedMs_mirrors _)) fun _ =>
          .bind (.lift (addResultOf_mirrors _ _)) fun _ => .pure

theorem pollOne_echoes (run : SuiteRun) :
    Echoes (seen f) (pollOne ⟨host, b', plan⟩ run) (pollOne ⟨host, b, plan⟩ run) := by
  refine .bind (onLab_echoes _) fun seen => ?_
  split
  · exact .pure
  · exact complete_echoes hb run _ _
  · exact .bind (.lift (lose_mirrors run _)) fun _ => .pure

theorem pollEach_echoes (active : List SuiteRun) :
    Echoes (seen f) (pollEach ⟨host, b', plan⟩ active) (pollEach ⟨host, b, plan⟩ active) := by
  induction active with
  | nil => exact .pure
  | cons run rest ih => exact .bind (pollOne_echoes hb run) fun _ => .bind ih fun _ => .pure

theorem pollUntilDone_echoes (passes : Nat) (heartbeat : Heartbeat) (active : List SuiteRun) :
    Echoes (seen f) (pollUntilDone ⟨host, b', plan⟩ passes heartbeat active)
      (pollUntilDone ⟨host, b, plan⟩ passes heartbeat active) := by
  induction passes generalizing heartbeat active with
  | zero =>
      cases active with
      | nil => exact .pure
      | cons run rest => exact .throw
  | succ passes ih =>
      cases active with
      | nil => exact .pure
      | cons run rest =>
          exact .bind (addMove_echoes _) fun _ => .bind (.adapt (pollEach_echoes hb _)) fun active =>
            .ite .pure (.bind (.lift (beat_mirrors _)) fun _ =>
              .bind (awaitLook_echoes active) fun _ => ih _ _)

omit hb in
theorem triggerFrom_echoes (blocked : List (Nat × String)) (index : Nat) (active : List SuiteRun)
    (names : List String) :
    Echoes (seen f) (triggerFrom ⟨host, b', plan⟩ blocked index active names)
      (triggerFrom ⟨host, b, plan⟩ blocked index active names) := by
  induction names generalizing index active with
  | nil => exact .pure
  | cons name rest ih =>
      refine .get fun r => ?_
      dsimp only
      split
      · exact .bind (.lift (addResult_mirrors _)) fun _ => ih _ _
      · refine .bind (.lift (trigger_echoes _ _ _)) fun triggered => ?_
        split
        · exact ih _ _
        · exact .bind (.lift (cancelRuns_mirrors active)) fun _ => .throw
        · exact .throw
        · exact .bind (.lift (addResult_mirrors _)) fun _ => ih _ _

theorem runSuites_echoes (passes : Nat) (blocked : List (Nat × String)) :
    Echoes (seen f) (runSuites ⟨host, b', plan⟩ passes blocked)
      (runSuites ⟨host, b, plan⟩ passes blocked) :=
  .bind (triggerFrom_echoes blocked 0 [] _) fun _ => .bind (onLab_echoes _) fun _ =>
    pollUntilDone_echoes hb _ _ _

end Suites

/-! ### The whole run -/

section Whole

variable (hb : b'.Mirrors f b)

include hb

theorem execute_echoes (passes : Nat) :
    Echoes (seen f) (execute ⟨host, b', plan⟩ passes) (execute ⟨host, b, plan⟩ passes) :=
  .bind (enter_echoes _) fun _ => .bind (acquireDevices_echoes hb) fun _ =>
    .bind (enter_echoes _) fun _ => .bind (startDevices_echoes hb) fun _ =>
      .bind (enter_echoes _) fun _ => .bind (.lift (startLogCapture_mirrors hb)) fun _ =>
        .bind (enter_echoes _) fun _ => .bind (.lift (installArtifacts_mirrors hb)) fun blocked =>
          .bind (enter_echoes _) fun _ => .bind (runSuites_echoes hb passes blocked) fun _ =>
            enter_echoes _

theorem stopDevices_mirrors :
    Mirrors (seen f) (stopDevices ⟨host, b', plan⟩) (stopDevices ⟨host, b, plan⟩) :=
  .get fun _ => .bind (.forM (performPlain_mirrors hb.teardown)) fun _ =>
    .bind (onLab_mirrors _) fun _ =>
      .bind (.get fun _ => .ite .pure (.bind (follow_mirrors _) fun _ => follow_mirrors _))
        fun _ => .get fun _ => addPhase_mirrors _

theorem carryOut_echoes (passes : Nat) :
    Echoes (seen f) (carryOut ⟨host, b', plan⟩ passes) (carryOut ⟨host, b, plan⟩ passes) := by
  refine .bind (.lift (execute_echoes hb passes)) fun outcome => ?_
  split
  · exact .lift (stopDevices_mirrors hb)
  · exact .bind (.lift (addPhase_mirrors _)) fun _ => .bind (.lift (follow_mirrors _)) fun _ =>
      .lift (stopDevices_mirrors hb)
  · exact .throw

omit hb in
theorem sumUp_mirrors (started : Instant) :
    Mirrors (seen f) (sumUp ⟨host, b', plan⟩ started) (sumUp ⟨host, b, plan⟩ started) := by
  refine .get fun r => .bind (onLab_mirrors _) fun now => ?_
  dsimp only
  exact .bind (onLab_mirrors _) fun _ => .pure

theorem sumUpWithin_echoes (passes : Nat) :
    Echoes (seen f) (sumUpWithin ⟨host, b', plan⟩ passes) (sumUpWithin ⟨host, b, plan⟩ passes) :=
  .bind (onLab_echoes _) fun started =>
    .bind (.tryCatch (carryOut_echoes hb passes) fun _ => .bind (onLab_echoes _) fun _ => .throw)
      fun _ => .lift (sumUp_mirrors started)

omit hb in
theorem keepEach_mirrors (dir : String) (ids : List ProcessId) :
    Mirrors (seen f) (keepEach ⟨host, b', plan⟩ dir ids) (keepEach ⟨host, b, plan⟩ dir ids) := by
  induction ids with
  | nil => exact .pure
  | cons id rest ih =>
      refine .get fun r => .bind (onLab_mirrors _) fun kept => ?_
      split
      · exact .bind ih fun _ => .pure
      · exact ih

omit hb in
theorem finish_mirrors (summary : RunSummary) :
    Mirrors (seen f) (finish ⟨host, b', plan⟩ summary) (finish ⟨host, b, plan⟩ summary) := by
  have hkeep : Mirrors (seen f) (keepOutput ⟨host, b', plan⟩ summary)
      (keepOutput ⟨host, b, plan⟩ summary) :=
    .ite .pure (.bind (.get fun _ => .bind (keepEach_mirrors _ _) fun _ => .pure) fun _ => .pure)
  have hrelease : Mirrors (seen f) (releaseAll ⟨host, b', plan⟩) (releaseAll ⟨host, b, plan⟩) :=
    .get fun _ => .forM fun _ => .discard (onLab_mirrors _)
  refine .get fun _ => .bind hkeep fun kept => .bind hrelease fun _ =>
    .bind (onLab_mirrors _) fun written => ?_
  split <;> exact .pure

/-- With a backend that does the same and remembers more, a run is the same, apart from what is
remembered. -/
theorem startWithin_echoes (passes : Nat) :
    Echoes (seen f) (startWithin ⟨host, b', plan⟩ passes) (startWithin ⟨host, b, plan⟩ passes) :=
  .bind (sumUpWithin_echoes hb passes) fun summary => .bind (.lift (finish_mirrors summary))
    fun _ => .bind (onLab_echoes _) fun _ => .pure

end Whole

end Run

end DeviceLab
