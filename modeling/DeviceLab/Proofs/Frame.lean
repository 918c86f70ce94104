import DeviceLab.Proofs.Supervision
import DeviceLab.Run.Controller

/-! # What the small steps of a run leave alone

Everything that a run does with the lab and the backend is done in small steps: an operation of the
lab, a look at the wish to cancel, a step of the backend, a move written down.  None of them changes
the phase of the run, what has been recorded, or which devices there are.

* `Backend.Keeps`: no step of a backend changes what is kept of a device.
* `Adds kept p before after`: from the first state to the second one, only the lab and the memory of
  the backend have changed, devices only in what is not kept of them, and all new moves satisfy `p`.
* `Robust kept p I`: the statement `I` survives that.  Each small step keeps every robust statement
  that survives its own moves (`onLab_keeps`, `look_keeps`, `perform_keeps`, `sleep_keeps`, ...).
* `Detached host I`: the statement `I` survives what is done with the lab, as long as that gives
  nothing up; it may say something about the lab, which a robust statement cannot. -/

namespace DeviceLab

variable {σ β κ α ε : Type}

/-- No step of a backend changes what is kept of a device. -/
structure Backend.Keeps (b : Backend σ β) (kept : Device → κ) : Prop where
  acquire : ∀ t, kept (b.acquire.run.run t).2.device = kept t.device
  launch : ∀ t, kept (b.launch.run.run t).2.device = kept t.device
  redirect : ∀ t, kept (b.redirect.run.run t).2.device = kept t.device
  abortStart : ∀ t, kept (b.abortStart.run t).2.device = kept t.device
  checkHealth : ∀ t, kept (b.checkHealth.run.run t).2.device = kept t.device
  startLogCapture : ∀ t, kept (b.startLogCapture.run.run t).2.device = kept t.device
  install : ∀ package path t,
    kept ((b.install package path).run.run t).2.device = kept t.device
  collectDiagnostics : ∀ t, kept (b.collectDiagnostics.run t).2.device = kept t.device
  teardown : ∀ t, kept (b.teardown.run t).2.device = kept t.device

/-- Every backend keeps nothing at all of a device. -/
theorem Backend.keeps_nothing (b : Backend σ β) : b.Keeps fun _ => () := by
  constructor <;> intros <;> rfl

/-- What is kept of a device keeps what can be read off it. -/
theorem Backend.Keeps.map {μ : Type} {b : Backend σ β} {kept : Device → κ} (h : b.Keeps kept)
    (f : κ → μ) : b.Keeps fun d => f (kept d) where
  acquire t := congrArg f (h.acquire t)
  launch t := congrArg f (h.launch t)
  redirect t := congrArg f (h.redirect t)
  abortStart t := congrArg f (h.abortStart t)
  checkHealth t := congrArg f (h.checkHealth t)
  startLogCapture t := congrArg f (h.startLogCapture t)
  install package path t := congrArg f (h.install package path t)
  collectDiagnostics t := congrArg f (h.collectDiagnostics t)
  teardown t := congrArg f (h.teardown t)

theorem Instant.eq_pastClock_of_after {t : Instant} {d : Duration} {cause : DurationError}
    (h : t.after d = .error cause) : cause = .pastClock := by
  unfold Instant.after at h
  split at h
  · cases h
  · exact (Except.error.inj h).symm

/-- On the clock of the host there is a time from which it does not get to the end of a wait. -/
def Host.Overruns (host : Host σ) (d : Duration) : Prop :=
  ∃ system, (host.now.run system).1.after d = .error .pastClock

/-- Why a run cannot measure a time that it comes to: a limit of a selected suite is no duration, or
the clock ends before one of the waits. -/
inductive Setup.Overlong (s : Setup σ β) : DurationError → Prop where
  | limit {name : String} {spec : SuiteSpec} {cause : DurationError}
      (hname : name ∈ s.plan.config.selected) (hspec : s.plan.config.suite? name = some spec)
      (hlimit : s.plan.timing.suite.withOverrides spec.timeoutSecs spec.idleTimeoutSecs =
        .error cause) : s.Overlong cause
  | retry {attempt : Nat}
      (hwait : s.host.Overruns (s.plan.timing.startup.backoff.delayForRetry attempt)) :
      s.Overlong .pastClock
  | look (hwait : s.host.Overruns s.plan.timing.pollInterval) : s.Overlong .pastClock

/-- What stops a run in one of its phases: an outcome of the phase, or a time that it cannot
measure. -/
def Setup.MayStop (s : Setup σ β) : Stop → Prop
  | .phase _ => True
  | .broken (.duration cause) => s.Overlong cause
  | .broken .unfinished => False

namespace Run

/-- From the first state to the second one only small steps were taken. -/
structure Adds (kept : Device → κ) (p : Move → Prop) (before after : Run σ β) : Prop where
  machine : after.machine = before.machine
  devices : after.devices.map kept = before.devices.map kept
  phases : after.phases = before.phases
  results : after.results = before.results
  logNames : after.logNames = before.logNames
  resultLogs : after.resultLogs = before.resultLogs
  moves : ∃ new, after.moves.toList = before.moves.toList ++ new ∧ ∀ m ∈ new, p m

/-- A statement about the state of a run that small steps leave true. -/
def Robust (kept : Device → κ) (p : Move → Prop) (I : Run σ β → Prop) : Prop :=
  ∀ before after, I before → Adds kept p before after → I after

variable {kept : Device → κ} {p q : Move → Prop} {I : Run σ β → Prop} {r r' r'' : Run σ β}

/-! ### Small steps in a row -/

theorem Adds.refl (r : Run σ β) : Adds kept p r r :=
  ⟨rfl, rfl, rfl, rfl, rfl, rfl, [], by simp, by simp⟩

theorem Adds.trans (h : Adds kept p r r') (h' : Adds kept p r' r'') : Adds kept p r r'' := by
  obtain ⟨new, hnew, hp⟩ := h.moves
  obtain ⟨new', hnew', hp'⟩ := h'.moves
  refine ⟨h'.machine.trans h.machine, h'.devices.trans h.devices, h'.phases.trans h.phases,
    h'.results.trans h.results, h'.logNames.trans h.logNames, h'.resultLogs.trans h.resultLogs,
    new ++ new', ?_, ?_⟩
  · rw [hnew', hnew, List.append_assoc]
  · intro m hm
    rcases List.mem_append.1 hm with hm | hm
    · exact hp m hm
    · exact hp' m hm

theorem Adds.mono (h : Adds kept p r r') (hpq : ∀ m, p m → q m) : Adds kept q r r' := by
  obtain ⟨new, hnew, hp⟩ := h.moves
  exact { h with moves := ⟨new, hnew, fun m hm => hpq m (hp m hm)⟩ }

/-- When no move is possible, none has been made. -/
theorem Adds.moves_eq (h : Adds kept (fun _ => False) r r') : r'.moves.toList = r.moves.toList := by
  obtain ⟨new, hnew, hfalse⟩ := h.moves
  rw [hnew, List.eq_nil_iff_forall_not_mem.2 hfalse, List.append_nil]

theorem Adds.devices_eq (h : Adds id p r r') : r'.devices = r.devices := by
  simpa using h.devices

theorem Adds.of_id (h : Adds id p r r') : Adds kept p r r' :=
  { h with devices := by rw [h.devices_eq] }

theorem Adds.length_devices (h : Adds kept p r r') : r'.devices.length = r.devices.length := by
  simpa using congrArg List.length h.devices

theorem calls_push {m : Move} (h : r'.moves = r.moves.push m) :
    r'.calls = r.calls ++ m.call?.toList := by
  rw [calls, h, Array.toList_push, List.filterMap_append, calls]
  cases m <;> rfl

theorem Adds.calls (h : Adds kept p r r') :
    ∃ new, r'.calls = r.calls ++ new ∧ ∀ c ∈ new, p (.called c) := by
  obtain ⟨new, hnew, hp⟩ := h.moves
  refine ⟨new.filterMap Move.call?, ?_, ?_⟩
  · rw [Run.calls, hnew, List.filterMap_append, Run.calls]
  · intro c hc
    obtain ⟨m, hm, hcall⟩ := List.mem_filterMap.1 hc
    cases m with
    | called c' =>
        cases hcall
        exact hp _ hm
    | _ => cases hcall

theorem robust_adds (r : Run σ β) : Robust kept p (Adds kept p r) :=
  fun _ _ h h' => h.trans h'

theorem Robust.and {J : Run σ β → Prop} (hI : Robust kept p I) (hJ : Robust kept p J) :
    Robust kept p fun r => I r ∧ J r :=
  fun r r' h hadds => ⟨hI r r' h.1 hadds, hJ r r' h.2 hadds⟩

theorem Robust.mono (h : Robust kept q I) (hpq : ∀ m, p m → q m) : Robust kept p I :=
  fun _ _ hI hadds => h _ _ hI (hadds.mono hpq)

/-! ### The small steps -/

theorem adds_lab (r : Run σ β) (lab : Lab σ) : Adds kept p r { r with lab } :=
  ⟨rfl, rfl, rfl, rfl, rfl, rfl, [], by simp, by simp⟩

theorem adds_move (r : Run σ β) {m : Move} (hm : p m) :
    Adds kept p r { r with moves := r.moves.push m } :=
  ⟨rfl, rfl, rfl, rfl, rfl, rfl, [m], by simp, by simpa using hm⟩

theorem onLab_keeps (h : Robust kept p I) (operation : StateM (Lab σ) α) :
    Leads I (onLab operation : StateM (Run σ β) α) fun _ => I :=
  .modifyGet fun r hr => h r _ hr (adds_lab r _)

theorem onLab_keeps' {E : ε → Run σ β → Prop} (h : Robust kept p I)
    (operation : StateM (Lab σ) α) :
    Ends I (onLab operation : ExceptT ε (StateM (Run σ β)) α) (fun _ => I) E :=
  .lift (onLab_keeps h operation)

/-- A statement about a run that survives operations of the lab which give nothing up. -/
def Detached (host : Host σ) (I : Run σ β → Prop) : Prop :=
  ∀ r lab, I r → Lab.Retains host r.lab lab → I { r with lab }

theorem Robust.detached (h : Robust kept p I) (host : Host σ) : Detached host I :=
  fun r lab hr _ => h r _ hr (adds_lab r lab)

theorem onLab_detached {host : Host σ} (hI : Detached host I) {operation : StateM (Lab σ) α}
    (h : ∀ start, Preserves (Lab.Retains host start) operation) :
    Preserves I (onLab operation : StateM (Run σ β) α) :=
  .modifyGet fun r hr => hI r _ hr (h r.lab r.lab .refl)

theorem onLab_detached' {host : Host σ} (hI : Detached host I) {E : ε → Run σ β → Prop}
    {operation : StateM (Lab σ) α} (h : ∀ start, Preserves (Lab.Retains host start) operation) :
    Ends I (onLab operation : ExceptT ε (StateM (Run σ β)) α) (fun _ => I) E :=
  .lift (onLab_detached hI h)

section Waiting

variable {host : Host σ} (hI : Detached host I)
  (hlook : ∀ r b, I r → I { r with moves := r.moves.push (.looked b) })

include hI hlook

theorem look_detached : Preserves I (look host : StateM (Run σ β) Bool) :=
  .modifyGet fun r hr =>
    hlook _ _ (hI r _ hr (.single (.tended (.turned r.lab .cancelRequested))))

theorem sleepUntil_detached (deadline : Instant) (slices : Nat) :
    Preserves I (sleepUntil host deadline slices : StateM (Run σ β) Bool) := by
  induction slices with
  | zero => exact look_detached hI hlook
  | succ slices ih =>
      refine .bind (look_detached hI hlook) fun cancelled => .ite .pure ?_
      refine .bind (onLab_detached hI fun _ => Lab.sys_retains .now) fun now => .ite .pure ?_
      exact .bind (onLab_detached hI fun _ => Lab.pause_retains _) fun _ => ih

end Waiting

theorem look_keeps (h : Robust kept p I) (host : Host σ) (hp : ∀ b, p (.looked b)) :
    Leads I (look host : StateM (Run σ β) Bool) fun _ => I :=
  look_detached (h.detached host) fun r b hr => h r _ hr (adds_move r (hp b))

/-- A backend step on a device has been carried out. -/
structure Performed (kept : Device → κ) (step : StateM (Station σ β) α) (c : BackendCall)
    (before after : Run σ β) : Prop where
  moves : after.moves = before.moves.push (.called c)
  adds : Adds kept (· = .called c) before after
  device : ∃ t, after.devices = before.devices.set c.index (step.run t).2.device

/-- A backend step on a device keeps what the backend keeps, and adds one call. -/
theorem perform_spec {kind : CallKind} {package : Option String} {ending : α → CallResult}
    {step : StateM (Station σ β) α} (hstep : ∀ t, kept (step.run t).2.device = kept t.device)
    (index : Nat) (r : Run σ β) :
    Leads (· = r) (perform kind package ending step index) fun result r' => match result with
      | none => r' = r ∧ r.devices.length ≤ index
      | some a => ∃ c : BackendCall, c.kind = kind ∧ c.index = index ∧ c.result = ending a ∧
          Performed kept step c r r' := by
  refine .modifyGet fun r₀ hr => ?_
  subst hr
  cases hdev : r₀.devices[index]? with
  | none => exact ⟨rfl, List.getElem?_eq_none_iff.1 hdev⟩
  | some device =>
      refine ⟨⟨kind, index, device.name, package, _⟩, rfl, rfl, rfl, rfl,
        ⟨rfl, ?_, rfl, rfl, rfl, rfl, [_], Array.toList_push .., by simp⟩, ⟨_, rfl⟩⟩
      have hkept := hstep ⟨device, r₀.memory, r₀.lab⟩
      rw [StateT.run] at hkept
      obtain ⟨hlt, hget⟩ := List.getElem?_eq_some_iff.1 hdev
      simp only [List.map_set, hkept]
      rw [← hget, ← List.getElem_map kept (h := by simpa using hlt), List.set_getElem_self]

theorem perform_keeps (h : Robust kept p I) {kind : CallKind} {package : Option String}
    {ending : α → CallResult} {step : StateM (Station σ β) α} (index : Nat)
    (hp : ∀ c : BackendCall, c.kind = kind → p (.called c))
    (hstep : ∀ t, kept (step.run t).2.device = kept t.device) :
    Leads I (perform kind package ending step index) fun _ => I := by
  refine .of_eq fun r hr => (perform_spec hstep index r).weaken fun result r' hr' => ?_
  cases result with
  | none => rwa [hr'.1]
  | some a =>
      obtain ⟨c, hkind, -, -, hdone⟩ := hr'
      exact h r r' hr (hdone.adds.mono fun m hm => hm ▸ hp c hkind)

/-- A step that cannot fail, on a device that there is. -/
theorem performPlain_spec {kind : CallKind} {step : StateM (Station σ β) Unit}
    (hstep : ∀ t, kept (step.run t).2.device = kept t.device) {index : Nat} {r : Run σ β}
    (hlt : index < r.devices.length) :
    Leads (· = r) (performPlain kind step index) fun _ r' =>
      ∃ c : BackendCall, c.kind = kind ∧ c.index = index ∧ Performed kept step c r r' := by
  refine .discard ((perform_spec hstep index r).weaken fun result r' hr => ?_)
  cases result with
  | none => exact absurd hlt (Nat.not_lt_of_le hr.2)
  | some a =>
      obtain ⟨c, hkind, hindex, -, hdone⟩ := hr
      exact ⟨c, hkind, hindex, hdone⟩

theorem performPlain_keeps (h : Robust kept p I) {kind : CallKind}
    {step : StateM (Station σ β) Unit} (index : Nat)
    (hp : ∀ c : BackendCall, c.kind = kind → p (.called c))
    (hstep : ∀ t, kept (step.run t).2.device = kept t.device) :
    Leads I (performPlain kind step index) fun _ => I :=
  .discard (perform_keeps h index hp hstep)

theorem performStep_keeps (h : Robust kept p I) {kind : CallKind}
    {step : DeviceStep σ β DeviceError Unit} (index : Nat)
    (hp : ∀ c : BackendCall, c.kind = kind → p (.called c))
    (hstep : ∀ t, kept (step.run.run t).2.device = kept t.device) :
    Ends I (performStep kind step index) (fun _ => I) fun _ => I := by
  refine .bind (.lift (perform_keeps h index hp hstep)) fun outcome => ?_
  split
  · exact .throw fun _ hr => hr
  · exact .pure fun _ hr => hr

theorem sleepUntil_keeps (h : Robust kept p I) (host : Host σ) (hp : ∀ b, p (.looked b))
    (deadline : Instant) (slices : Nat) :
    Leads I (sleepUntil host deadline slices : StateM (Run σ β) Bool) fun _ => I :=
  sleepUntil_detached (h.detached host) (fun r b hr => h r _ hr (adds_move r (hp b))) deadline slices

/-- A wait takes a reading of the clock and goes on from there, unless the clock then ends first. -/
theorem sleep_ends {P Q : Run σ β → Prop} {R : Bool → Run σ β → Prop} {host : Host σ} {d : Duration}
    (hnow : Leads P (onLab (Lab.sys host.now) : StateM (Run σ β) Instant) fun _ => Q)
    (hwait : ∀ deadline slices, Leads Q (sleepUntil host deadline slices) R) :
    Ends P (sleep host d) R fun stop r =>
      (stop = .broken (.duration .pastClock) ∧ host.Overruns d) ∧ Q r := by
  have hread : Leads P (onLab (Lab.sys host.now) : StateM (Run σ β) Instant) fun now r =>
      (∃ system, (host.now.run system).1 = now) ∧ Q r :=
    fun r hr => ⟨⟨r.lab.system, rfl⟩, hnow r hr⟩
  refine .bind (.lift hread) fun now => ?_
  cases hafter : now.after d with
  | error cause =>
      refine .throw fun r h => ?_
      obtain ⟨⟨system, rfl⟩, hr⟩ := h
      obtain rfl := Instant.eq_pastClock_of_after hafter
      exact ⟨⟨rfl, system, hafter⟩, hr⟩
  | ok deadline => exact .lift ((hwait deadline _).conseq (fun _ h => h.2) fun _ _ h => h)

theorem sleep_detached {host : Host σ} (hI : Detached host I)
    (hlook : ∀ r b, I r → I { r with moves := r.moves.push (.looked b) }) (d : Duration) :
    Ends I (sleep host d : Running σ β Bool) (fun _ => I) fun stop r =>
      (stop = .broken (.duration .pastClock) ∧ host.Overruns d) ∧ I r :=
  sleep_ends (onLab_detached hI fun _ => Lab.sys_retains .now) (sleepUntil_detached hI hlook)

theorem sleep_keeps (h : Robust kept p I) (host : Host σ) (hp : ∀ b, p (.looked b))
    (d : Duration) :
    Ends I (sleep host d : Running σ β Bool) (fun _ => I) fun stop r =>
      (stop = .broken (.duration .pastClock) ∧ host.Overruns d) ∧ I r :=
  sleep_ends (onLab_keeps h _) (sleepUntil_keeps h host hp)

end Run

end DeviceLab
