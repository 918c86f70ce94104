import DeviceLab.Proofs.Requests
import DeviceLab.Proofs.Visits

/-! # What a step does to the handles of a device

A device has two handles: that of its emulator and that of the companion that captures its log.
The emulator is set by the step that launches one and taken away by the step that ends a
half-started one; all other steps leave it alone, and whatever else is in use stays in use, except
the companion, which is given up when the device is torn down.

* `Unaltered`: nothing has been done yet.
* `Minds`, `Boots`, `Quits`: what comes of most steps, of a launch, and of an end; `Keeps`: what all
  of these have in common.
* `Backend.Supplied.minds`, `Supplied.handles`: the steps of the backends that there are. -/

namespace DeviceLab

variable {σ β α : Type} {host : Host σ}

/-! ### What is in use -/

namespace Lab

variable {lab lab' : Lab σ} {id other : ProcessId} {o : ExitOutcome}

/-- The end of a process has been written down. -/
def Exited (journal : List Event) (id : ProcessId) : Prop := ∃ o, .exited id o ∈ journal

theorem Grows.given (h : Grows lab lab') (hid : Given lab.journal id) : Given lab'.journal id := by
  obtain ⟨spec, hspec⟩ := hid
  exact ⟨spec, h.mem hspec⟩

theorem Grows.exited (h : Grows lab lab') (hid : Exited lab.journal id) : Exited lab'.journal id := by
  obtain ⟨o, ho⟩ := hid
  exact ⟨o, h.mem ho⟩

theorem Releases.inUse (h : Releases host id lab lab') (hne : other ≠ id)
    (hother : InUse lab.journal other) : InUse lab'.journal other :=
  ⟨(h.given other).2 hother.1, fun hreleased =>
    ((h.released_iff other).1 hreleased).elim hother.2 hne⟩

/-- A short command gives up nothing but itself. -/
theorem runToCompletion_inUse (hlab : Orderly lab) (spec : LaunchSpec) (limit : Duration) :
    Leads (· = lab) (runToCompletion host spec limit).run
      fun _ lab' => ∀ id, InUse lab.journal id → InUse lab'.journal id := by
  refine .attempt ((runToCompletion_spec host spec limit lab).weaken (fun _ lab' h id hid => ?_)
    fun _ lab' h id hid => ?_)
  · obtain ⟨new, launched, between, hlaunches, htending, hreleases⟩ := h
    have hbetween : Retains host lab between :=
      (Relation.ReflTransGen.single (.launched hlaunches)).trans htending.retains
    refine hreleases.inUse (fun heq => ?_) (hbetween.inUse hid)
    exact hlaunches.not_given hlab (heq ▸ hid.1)
  · have hretains : Retains host lab lab' := by
      rcases h with h | ⟨new, launched, hlaunches, htending⟩
      · exact .single (.unlaunched h)
      · exact (Relation.ReflTransGen.single (.launched hlaunches)).trans htending.retains
    exact hretains.inUse hid

/-- Giving up a process leaves all others in use. -/
theorem release_inUse (lab : Lab σ) (id : ProcessId) :
    Leads (· = lab) (release host id).run
      fun _ lab' => ∀ other, other ≠ id → InUse lab.journal other → InUse lab'.journal other := by
  refine .attempt (handle_spec (fun _ other _ hother => hother) fun pid _ =>
    (release_spec (P := (· = id)) rfl).weaken (fun _ lab' h other hne hother => ?_)
      fun _ lab' h other _ hother => ?_)
  · obtain ⟨between, o, htending, -, hreleases⟩ := h
    exact hreleases.inUse hne (htending.retains.inUse hother)
  · exact h.2.1.retains.inUse hother

/-- A process that has been ended without failure is known to have ended. -/
theorem ended_of_terminate (h : (terminate host id).run.run lab = (.ok o, lab')) :
    ∃ pid, lab'.supervisor.Ended id pid o := by
  have hspec : Ends (· = lab) (terminate host id)
      (fun o lab' => ∃ pid, lab'.supervisor.Ended id pid o) fun _ _ => True :=
    handle_spec (fun _ => trivial) fun pid _ => (terminate_tends (P := (· = id)) rfl).weaken
      (fun _ _ h => ⟨pid, h.2.1⟩) fun _ _ _ => trivial
  have hlab := hspec lab rfl
  rwa [h] at hlab

end Lab

open Lab

/-! ### Kinds of steps -/

/-- Nothing has been done to the device, and nothing that is written down. -/
structure Unaltered (host : Host σ) (t t' : Station σ Unit) : Prop where
  device : t'.device = t.device
  journal : t'.lab.journal = t.lab.journal
  retains : Retains host t.lab t'.lab

/-- The device stays in its place; its companion may be new or given up, and all else stays in use.
-/
structure Keeps (host : Host σ) (t t' : Station σ Unit) : Prop where
  index : t'.device.index = t.device.index
  logcat : ∀ id, t'.device.logcat = some id → t.device.logcat = some id ∨
    ¬Lab.Given t.lab.journal id ∧ Lab.Given t'.lab.journal id
  evolves : Evolves host t.lab t'.lab
  inUse : ∀ id, t.device.logcat ≠ some id → InUse t.lab.journal id → InUse t'.lab.journal id

/-- And the device has its emulator, if it had one. -/
structure Minds (host : Host σ) (t t' : Station σ Unit) : Prop extends Keeps host t t' where
  process : t'.device.process = t.device.process

/-- A new emulator is the one of the device, or nothing was launched. -/
structure Boots (host : Host σ) (t t' : Station σ Unit) : Prop where
  index : t'.device.index = t.device.index
  logcat : t'.device.logcat = t.device.logcat
  retains : Retains host t.lab t'.lab
  process : t'.device.process = t.device.process ∧ t'.lab.journal = t.lab.journal ∨
    ∃ id spec, ¬Lab.Given t.lab.journal id ∧ t'.device.process = some id ∧
      t'.lab.journal = t.lab.journal ++ [Event.launched id spec]

/-- The device has no emulator any more, and the one that it had was to be ended. -/
structure Quits (host : Host σ) (t t' : Station σ Unit) : Prop where
  index : t'.device.index = t.device.index
  logcat : t'.device.logcat = t.device.logcat
  process : t'.device.process = none
  retains : Retains host t.lab t'.lab
  ended : ∀ id, t.device.process = some id → ∃ lab, Retains host t.lab lab ∧
    lab.journal = t.lab.journal ∧
    ∀ o lab', (terminate host id).run.run lab = (.ok o, lab') → t'.lab = lab'

section Kinds

variable {t t' : Station σ Unit}

theorem Unaltered.refl : Unaltered host t t := ⟨rfl, rfl, .refl⟩

theorem Unaltered.minds (h : Unaltered host t t') : Minds host t t' where
  index := by rw [h.device]
  process := by rw [h.device]
  logcat id hid := .inl (h.device ▸ hid)
  evolves := h.retains.evolves
  inUse _ _ := h.retains.inUse

theorem Boots.keeps (h : Boots host t t') : Keeps host t t' where
  index := h.index
  logcat _ hid := .inl (h.logcat.symm.trans hid)
  evolves := h.retains.evolves
  inUse _ _ := h.retains.inUse

theorem Quits.keeps (h : Quits host t t') : Keeps host t t' where
  index := h.index
  logcat _ hid := .inl (h.logcat.symm.trans hid)
  evolves := h.retains.evolves
  inUse _ _ := h.retains.inUse

theorem Unaltered.boots (h : Unaltered host t t') : Boots host t t' where
  index := by rw [h.device]
  logcat := by rw [h.device]
  retains := h.retains
  process := .inl ⟨by rw [h.device], h.journal⟩

/-- What most steps do is mindful of the handles. -/
theorem Minds.mindful (ht : Orderly t.lab) :
    Station.Mindful host fun t' : Station σ β => Minds host t t'.bare where
  lab _ _ h hlab :=
    { index := h.index
      process := h.process
      logcat := fun id hid => (h.logcat id hid).imp_right fun ⟨hold, hnew⟩ =>
        ⟨hold, hlab.evolves.grows.given hnew⟩
      evolves := h.evolves.trans hlab.evolves
      inUse := fun id hne hid => hlab.inUse (h.inUse id hne hid) }
  aside t' spec limit h :=
    have hevolves : Evolves host t'.lab ((runToCompletion host spec limit).run.run t'.lab).2 :=
      runToCompletion_evolves spec limit t'.lab .refl
    { index := h.index
      process := h.process
      logcat := fun id hid => (h.logcat id hid).imp_right fun ⟨hold, hnew⟩ =>
        ⟨hold, hevolves.grows.given hnew⟩
      evolves := h.evolves.trans hevolves
      inUse := fun id hne hid => runToCompletion_inUse (h.evolves.orderly ht) spec limit t'.lab rfl id
        (h.inUse id hne hid) }
  device _ _ h hindex _ hprocess hlogcat :=
    { index := hindex.trans h.index
      process := hprocess.trans h.process
      logcat := fun id hid => h.logcat id (hlogcat.symm.trans hid)
      evolves := h.evolves
      inUse := h.inUse }
  memory _ _ h := h

end Kinds

/-! ### Launching and ending -/

section Parts

variable {t : Station σ Unit} {id : ProcessId}

/-- A process has been launched, and that is all. -/
structure Launched (host : Host σ) (t : Station σ Unit) (id : ProcessId) (t' : Station σ Unit) :
    Prop where
  device : t'.device = t.device
  new : ¬Lab.Given t.lab.journal id
  journal : ∃ spec, t'.lab.journal = t.lab.journal ++ [Event.launched id spec]
  retains : Retains host t.lab t'.lab
  held : (t'.lab.supervisor.proc? id).isSome

/-- A process of the lab was to be ended, and that is all. -/
structure Parts (host : Host σ) (id : ProcessId) (t t' : Station σ β) : Prop where
  device : t'.device = t.device
  retains : Retains host t.lab t'.lab
  lab : ∀ o lab', (terminate host id).run.run t.lab = (.ok o, lab') → t'.lab = lab'

theorem Unaltered.modify {u : Station σ β} {memory : β} (h : Unaltered host t u.bare) :
    Unaltered host t ({ u with memory } : Station σ β).bare :=
  ⟨h.device, h.journal, h.retains⟩

/-- Either a process is launched, or nothing that is written down is done. -/
theorem onLab_launch_spec (ht : Orderly t.lab) (spec : LaunchSpec) :
    Leads (fun u : Station σ β => Unaltered host t u.bare) (Station.onLab (launch host spec).run)
      fun result u => match result with
        | .ok id => Launched host t id u.bare
        | .error _ => Unaltered host t u.bare := by
  refine .modifyGet fun u h => ?_
  have hlaunch := launch_spec host spec u.lab u.lab rfl
  revert hlaunch
  rw [StateT.run]
  rcases (launch host spec).run u.lab with ⟨result, lab⟩
  cases result with
  | ok id =>
      intro hlaunches
      have horder : Orderly u.lab := h.retains.evolves.orderly ht
      refine ⟨h.device, fun hgiven => ?_, ⟨spec, ?_⟩, h.retains.tail (.launched hlaunches),
        hlaunches.isSome⟩
      · exact hlaunches.not_given horder (show Lab.Given u.lab.journal id from h.journal ▸ hgiven)
      · obtain ⟨capture, between, pid, after, -, -, -, rfl⟩ := hlaunches
        exact congrArg (· ++ [_]) h.journal
  | error cause =>
      intro hunlaunched
      refine ⟨h.device, Eq.trans ?_ h.journal, h.retains.tail (.unlaunched hunlaunched)⟩
      cases hunlaunched <;> rfl

theorem proc_run (lab : Lab σ) :
    (proc id : Supervising σ Supervised).run lab =
      (match lab.supervisor.proc? id with
        | some p => Pure.pure p
        | none => throw (.unknownProcess id) : Supervising σ Supervised).run lab := rfl

/-- The process that has been launched is found. -/
theorem onLab_proc_spec :
    Leads (fun u : Station σ β => Launched host t id u.bare) (Station.onLab (proc id).run)
      fun result u => Launched host t id u.bare ∧ ∃ p, result = .ok p := by
  refine .modifyGet fun u h => ?_
  obtain ⟨p, hp⟩ := Option.isSome_iff_exists.1 h.held
  have hp : u.lab.supervisor.proc? id = some p := hp
  have hrun : (proc id : Supervising σ Supervised).run u.lab = (.ok p, u.lab) := by
    rw [proc_run, hp]
    rfl
  rw [hrun]
  exact ⟨h, p, rfl⟩

/-- A device whose new emulator is set has been booted. -/
theorem Launched.boots {u : Station σ β} {pids : List Nat} {health : HealthState}
    (h : Launched host t id u.bare) :
    Boots host t ({ u with device := { u.device with
      launchedPids := pids, process := some id, health } } : Station σ β).bare := by
  have hdevice : u.device = t.device := h.device
  obtain ⟨spec, hspec⟩ := h.journal
  exact ⟨by rw [← hdevice]; rfl, by rw [← hdevice]; rfl, h.retains,
    .inr ⟨id, spec, h.new, rfl, hspec⟩⟩

/-- A device whose new companion is set is minded. -/
theorem Launched.minds {u : Station σ β} (h : Launched host t id u.bare) :
    Minds host t ({ u with device := { u.device with logcat := some id } } : Station σ β).bare := by
  have hdevice : u.device = t.device := h.device
  obtain ⟨spec, hspec⟩ := h.journal
  have hgiven : Lab.Given u.lab.journal id :=
    ⟨spec, (show u.lab.journal = _ from hspec) ▸ List.mem_append_right _ (List.mem_singleton_self _)⟩
  refine ⟨⟨by rw [← hdevice]; rfl, fun other hother => ?_, h.retains.evolves,
    fun _ _ => h.retains.inUse⟩, by rw [← hdevice]; rfl⟩
  cases hother
  exact .inr ⟨h.new, hgiven⟩

/-- A device that has no emulator has nothing to quit. -/
theorem Unaltered.quits {u : Station σ β} {health : HealthState} (h : Unaltered host t u.bare)
    (hnone : u.device.process = none) :
    Quits host t ({ u with device := { u.device with health } } : Station σ β).bare := by
  have hdevice : u.device = t.device := h.device
  refine ⟨by rw [← hdevice]; rfl, by rw [← hdevice]; rfl, hnone, h.retains, fun id hid => ?_⟩
  rw [← hdevice, hnone] at hid
  cases hid

/-- A device whose emulator was to be ended has quit it. -/
theorem Parts.quits {u u' : Station σ β} {health : HealthState} (h : Unaltered host t u.bare)
    (hid : u.device.process = some id)
    (hparts : Parts host id { u with device := { u.device with process := none } } u') :
    Quits host t ({ u' with device := { u'.device with health } } : Station σ β).bare := by
  have hdevice : u.device = t.device := h.device
  have hdevice' : u'.device = { u.device with process := none } := hparts.device
  refine ⟨?_, ?_, ?_, h.retains.trans hparts.retains, fun other hother => ?_⟩
  · change u'.device.index = _
    rw [hdevice', ← hdevice]
  · change u'.device.logcat = _
    rw [hdevice', ← hdevice]
  · change u'.device.process = _
    rw [hdevice']
  · rw [← hdevice, hid] at hother
    cases hother
    exact ⟨u.lab, h.retains, h.journal, hparts.lab⟩

/-- A device without an emulator is left as it is; another one is left by its emulator. -/
theorem quits_of_parts {finish : ProcessId → StateM (Station σ β) Unit} {health : HealthState}
    (hfinish : ∀ id u, Leads (· = u) (finish id) fun _ u' => Parts host id u u') :
    Leads (fun u : Station σ β => Unaltered host t u.bare)
      (do
        match (← get).device.process with
        | none => pure ()
        | some id =>
          Station.modifyDevice fun d => { d with process := none }
          finish id
        Station.setHealth health) fun _ u => Quits host t u.bare := by
  refine .bind (Q := fun u u' => u' = u ∧ Unaltered host t u.bare) (.get fun _ h => ⟨rfl, h⟩) fun u => ?_
  cases hprocess : u.device.process with
  | none => exact .modify fun u' h => h.1.symm ▸ h.2.quits hprocess
  | some id =>
      refine .of_eq fun u h => ?_
      obtain ⟨rfl, hstill⟩ := h
      exact .bind (.modify fun _ h => by rw [h]) fun _ =>
        .bind (hfinish id { u with device := { u.device with process := none } }) fun _ =>
          .modify fun _ h => h.quits hstill hprocess

end Parts

/-! ### Scripted devices -/

namespace Scripted

variable {t : Station σ Unit}

theorem fault_still {ε : Type} (point : FaultPoint) (package : Option String) :
    Upholds (fun u => Unaltered host t u.bare)
      (fault? point package : DeviceStep σ FaultScript ε (Option DeviceFault)) :=
  .modifyGet fun _ h => h.modify

theorem startProgram_boots (ht : Orderly t.lab) (argv : List String) :
    Ends (fun u => Unaltered host t u.bare) (startProgram host argv)
      (fun _ u => Boots host t u.bare) fun _ u => Boots host t u.bare := by
  refine .bind (Q := fun _ u => Unaltered host t u.bare) (.get fun _ h => h) fun _ =>
    .bind (.lift (onLab_launch_spec ht _)) fun launched => ?_
  cases launched with
  | error cause => exact .throw fun _ h => h.boots
  | ok id =>
      refine .bind (.lift onLab_proc_spec) fun process => .of_eq fun u h => ?_
      obtain ⟨hlaunched, p, rfl⟩ := h
      refine .modify fun u' h => ?_
      subst h
      exact hlaunched.boots

theorem launch_boots (ht : Orderly t.lab) :
    Ends (fun u => Unaltered host t u.bare) (backend host).launch
      (fun _ u => Boots host t u.bare) fun _ u => Boots host t u.bare := by
  refine .bind (Q := fun _ u => Unaltered host t u.bare)
    ((fault_still _ _).weaken (fun _ _ h => h) fun _ _ h => h.boots) fun fault => ?_
  cases fault with
  | none => exact startProgram_boots ht _
  | some fault =>
      refine .ite (fun _ => startProgram_boots ht _) fun _ => ?_
      exact .bind (Q := fun _ u => Unaltered host t u.bare) (.get fun _ h => h) fun _ =>
        .throw fun _ h => h.boots

theorem endProgram_parts (id : ProcessId) (u : Station σ FaultScript) :
    Leads (· = u) (endProgram host id) fun _ u' => Parts host id u u' := by
  refine .discard (.modifyGet fun u' h => ?_)
  subst h
  refine ⟨rfl, Lab.terminate_retains u'.lab (.refl : Retains host u'.lab u'.lab), fun o lab' h => ?_⟩
  exact congrArg Prod.snd h

theorem abortStart_quits :
    Leads (fun u => Unaltered host t u.bare) (backend host).abortStart fun _ u => Quits host t u.bare :=
  quits_of_parts endProgram_parts

end Scripted

/-! ### Emulators -/

namespace EmulatorControl

variable {t : Station σ Unit} {e : EmulatorControl}

theorem launchFor_spec (ht : Orderly t.lab) (spec : LaunchSpec) :
    Ends (fun u => Unaltered host t u.bare) (launchFor host spec)
      (fun id u => Launched host t id u.bare) fun _ u => Unaltered host t u.bare := by
  refine .bind (.lift (onLab_launch_spec ht spec)) fun launched => ?_
  cases launched with
  | ok id => exact .pure fun _ h => h
  | error cause => exact .throw fun _ h => h

theorem launch_boots (ht : Orderly t.lab) :
    Ends (fun u => Unaltered host t u.bare) (backend host e).launch
      (fun _ u => Boots host t u.bare) fun _ u => Boots host t u.bare := by
  refine .bind (Q := fun _ u => Unaltered host t u.bare)
    ((command_upholds _).weaken (fun _ _ h => h) fun _ _ h => h.boots) fun _ =>
      .bind (Q := fun _ u => Unaltered host t u.bare) (.get fun _ h => h) fun _ =>
        .bind ((launchFor_spec ht _).weaken (fun _ _ h => h) fun _ _ h => h.boots) fun id =>
          .bind (Q := fun _ u => Launched host t id u.bare) ?_ fun p => .modify fun _ h => h.boots
  refine .bind (.lift onLab_proc_spec) fun process => .of_eq fun u h => ?_
  obtain ⟨hlaunched, p, rfl⟩ := h
  exact .pure fun _ h => h ▸ hlaunched

theorem endProcess_parts (what : String) (id : ProcessId) (u : Station σ Unit) :
    Leads (· = u) (endProcess host id what) fun _ u' => Parts host id u u' := by
  let Ended (result : Except SupervisorError ExitOutcome) (u' : Station σ Unit) : Prop :=
    Parts host id u u' ∧
      ∀ cause, result = .error cause → ∀ o, ((terminate host id).run.run u.lab).1 ≠ .ok o
  refine .bind (Q := Ended) (.modifyGet fun u' h => ?_) fun ended => ?_
  · subst h
    refine ⟨⟨rfl, Lab.terminate_retains u'.lab (.refl : Retains host u'.lab u'.lab), fun o lab' h => ?_⟩,
      fun cause hcause o h => ?_⟩
    · exact congrArg Prod.snd h
    · cases hcause.symm.trans h
  · cases ended with
    | ok _ => exact .pure fun _ h => h.1
    | error cause =>
        refine .modifyGet fun u' h => ⟨h.1.device, ?_, fun o lab' hrun => ?_⟩
        · exact h.1.retains.tail (.tended (.noted u'.lab trivial))
        · exact absurd (congrArg Prod.fst hrun) (h.2 cause rfl o)

theorem abortStart_quits :
    Leads (fun u => Unaltered host t u.bare) (backend host e).abortStart
      fun _ u => Quits host t u.bare :=
  quits_of_parts (endProcess_parts "emulator")

theorem startLogCapture_minds (ht : Orderly t.lab) :
    Ends (fun u => Unaltered host t u.bare) (backend host e).startLogCapture
      (fun _ u => Minds host t u.bare) fun _ u => Minds host t u.bare := by
  refine .ite (fun _ => .pure fun _ h => h.minds) fun _ => ?_
  refine .bind (Q := fun _ u => Unaltered host t u.bare)
    ((command_upholds _).weaken (fun _ _ h => h) fun _ _ h => h.minds) fun _ =>
      .bind (Q := fun _ u => Unaltered host t u.bare) (.get fun _ h => h) fun _ =>
        .bind ((launchFor_spec ht _).weaken (fun _ _ h => h) fun _ _ h => h.minds) fun id =>
          .modify fun _ h => h.minds

/-- The companion is ended, kept and given up; all else stays in use. -/
theorem saveLog_minds (ht : Orderly t.lab) {id : ProcessId} (hid : t.device.logcat = some id) :
    Preserves (fun u => Minds host t u.bare) (saveLog host e id) := by
  have hmindful : Station.Mindful host fun t' : Station σ Unit => Minds host t t'.bare :=
    Minds.mindful ht
  have hrelease : Preserves (fun u => Minds host t u.bare)
      (discard <| Station.onLab (Lab.release host id).run : StateM (Station σ Unit) Unit) := by
    refine .discard (.modifyGet fun u h => ?_)
    have hevolves : Evolves host u.lab ((release host id).run.run u.lab).2 :=
      release_evolves u.lab .refl
    refine ⟨⟨h.index, fun other hother => ?_, h.evolves.trans hevolves,
      fun other hne hother => ?_⟩, h.process⟩
    · exact (h.logcat other hother).imp_right fun ⟨hold, hnew⟩ =>
        ⟨hold, hevolves.grows.given hnew⟩
    · refine release_inUse u.lab id u.lab rfl other (fun heq => hne ?_) (h.inUse other hne hother)
      rw [heq, hid]
  refine .bind (endProcess_preserves hmindful id _) fun _ => .bind .get fun u =>
    .bind (hmindful.onLab fun _ => Lab.preserve_retains _ _) fun saved => ?_
  cases saved with
  | ok _ => exact .bind (hmindful.note _ _) fun _ => hrelease
  | error cause => exact .bind (hmindful.note _ _) fun _ => hrelease

theorem teardown_minds (ht : Orderly t.lab) :
    Leads (fun u => Unaltered host t u.bare) (backend host e).teardown fun _ u => Minds host t u.bare := by
  have hmindful : Station.Mindful host fun t' : Station σ Unit => Minds host t t'.bare :=
    Minds.mindful ht
  refine .bind (Q := fun _ (u : Station σ Unit) => Minds host t u.bare) ?_ fun _ =>
    Preserves.bind (stopEmulator_preserves hmindful) fun _ =>
      .bind (hmindful.setHealth _) fun _ => hmindful.note _ _
  refine .bind (Q := fun u u' => u' = u ∧ Unaltered host t u.bare) (.get fun _ h => ⟨rfl, h⟩) fun u => ?_
  cases hlogcat : u.device.logcat with
  | none => exact .pure fun _ h => h.1 ▸ h.2.minds
  | some id =>
      refine .of_eq fun _ h => ?_
      obtain ⟨rfl, hstill⟩ := h
      have hid : t.device.logcat = some id := by rw [← hstill.device]; exact hlogcat
      refine .bind (.modify fun u' h => ?_) fun _ => saveLog_minds ht hid
      subst h
      have hminds := hstill.minds
      exact ⟨⟨hminds.index, nofun, hminds.evolves, hminds.inUse⟩, hminds.process⟩

end EmulatorControl

/-! ### Every backend that there is -/

namespace Backend

/-- What the steps of a backend that concern the handles do, from a station on. -/
structure Handles (host : Host σ) (b : Backend σ β) (t : Station σ Unit) : Prop where
  launch : Leads (fun u => Unaltered host t u.bare) b.launch.run fun _ u => Boots host t u.bare
  abortStart : Leads (fun u => Unaltered host t u.bare) b.abortStart fun _ u => Quits host t u.bare
  startLogCapture :
    Leads (fun u => Unaltered host t u.bare) b.startLogCapture.run fun _ u => Minds host t u.bare
  teardown : Leads (fun u => Unaltered host t u.bare) b.teardown fun _ u => Minds host t u.bare

/-- A step that is counted does what the step of the inner backend does. -/
theorem counted_leads {t : Station σ Unit} {R : Station σ Unit → Prop} (point : CancelPoint)
    (kind : CallKind) {operation : StateM (Station σ β) α}
    (h : Leads (fun u => Unaltered host t u.bare) operation fun _ u => R u.bare) :
    Leads (fun u : Station σ (β × Nat) => Unaltered host t u.bare)
      (countCall host point kind >>= fun _ => withInner operation) fun _ u => R u.bare := by
  refine .bind (Q := fun _ u => Unaltered host t u.bare) ?_ fun _ u hu => h ⟨u.device, u.memory.1, u.lab⟩ hu
  refine .bind (Q := fun u u' => u' = u ∧ Unaltered host t u.bare) (.get fun _ h => ⟨rfl, h⟩) fun u =>
    .ite (fun _ => .bind (Q := fun _ u => Unaltered host t u.bare) (.set fun _ h => h.2) fun _ =>
      .ite (fun _ => .modifyGet fun u h => ?_) fun _ => .pure fun _ h => h) fun _ =>
        .pure fun _ h => h.1 ▸ h.2
  exact ⟨h.device, h.journal, h.retains.tail (.tended (.turned u.lab .requestCancel))⟩

theorem Supplied.handles {b : Backend σ β} (h : Supplied host b) {t : Station σ Unit}
    (ht : Orderly t.lab) : b.Handles host t := by
  induction h with
  | scripted =>
      exact
        { launch := .attempt (Scripted.launch_boots ht)
          abortStart := Scripted.abortStart_quits
          startLogCapture := .pure fun _ h => h.minds
          teardown := fun u h => Scripted.teardown_preserves (Minds.mindful ht) u h.minds }
  | emulators e =>
      exact
        { launch := .attempt (EmulatorControl.launch_boots ht)
          abortStart := EmulatorControl.abortStart_quits
          startLogCapture := .attempt (EmulatorControl.startLogCapture_minds ht)
          teardown := EmulatorControl.teardown_minds ht }
  | cancelling point h ih =>
      exact
        { launch := counted_leads point .launch ih.launch
          abortStart := counted_leads point .abortStart ih.abortStart
          startLogCapture := counted_leads point .startLogCapture ih.startLogCapture
          teardown := counted_leads point .teardown ih.teardown }

end Backend

end DeviceLab
