import DeviceLab.Proofs.Changes
import DeviceLab.Proofs.Triple
import DeviceLab.Supervisor.Operations

/-! # What the supervisor does

Every operation of the supervisor is a row of changes.  One lemma for each says which, what its
result tells, and what must have failed if it fails; callers need nothing else of it.

* `Tended`: a lab that has come out of another one, with what is known of its supervisor.
* `Told`: what a look at a process has shown; `Failed`: it could not be looked at.
* `poll_tends`, `terminate_tends`, `terminateAll_tends`, ...: operations on what is held.
* `launch_spec`, `release_spec`, `runToCompletion_spec`: those that take up and give up.
* `release_evolves`, `runToCompletion_evolves`: those that give up, from wherever they begin. -/

namespace DeviceLab

variable {σ α : Type} {host : Host σ}

open Supervisor (Holds Live Ended)

namespace Lab

/-! ### Operations that leave the supervisor alone -/

/-- A lab that has come out of another one by changes to processes that are held, with what is known
of its supervisor. -/
def Tended (host : Host σ) (P : ProcessId → Prop) (start : Lab σ) (J : Supervisor → Prop)
    (lab : Lab σ) : Prop :=
  Tending host P start lab ∧ J lab.supervisor

/-- What a look at a process has shown. -/
def Told (s : Supervisor) (id : ProcessId) (pid : Nat) : Option ExitOutcome → Prop
  | none => s.Live id pid
  | some o => s.Ended id pid o

/-- A process cannot be looked at, at some time after a lab. -/
def Stuck (host : Host σ) (P : ProcessId → Prop) (start : Lab σ) : Prop :=
  ∃ lab id pid, P id ∧ Tending host P start lab ∧ lab.supervisor.Live id pid ∧
    host.Fails pid lab.system

/-- An operation has failed because a process could not be looked at. -/
def Failed (host : Host σ) (P : ProcessId → Prop) (start : Lab σ) (e : SupervisorError)
    (lab : Lab σ) : Prop :=
  (∃ cause, e = .io cause) ∧ Tending host P start lab ∧ Stuck host P start

section Operations

variable {P : ProcessId → Prop} {start lab : Lab σ} {J : Supervisor → Prop} {id : ProcessId}
  {pid : Nat} {o : ExitOutcome} {ε : Type}

theorem Tended.refl (h : J lab.supervisor) : Tended host P lab J lab := ⟨.refl, h⟩

theorem sys_tends {operation : StateM σ α} (h : host.Plain operation) :
    Leads (Tended host P start J) (sys operation : StateM (Lab σ) α)
      fun _ => Tended host P start J :=
  .modifyGet fun lab hlab => ⟨hlab.1.tail (.turned lab h), hlab.2⟩

theorem record_tends {event : Event} (h : event.Aside) :
    Leads (Tended host P start J) (record event : StateM (Lab σ) Unit)
      fun _ => Tended host P start J :=
  .modify fun lab hlab => ⟨hlab.1.tail (.noted lab h), hlab.2⟩

theorem pause_tends (d : Duration) :
    Leads (Tended host P start J) (pause host d : StateM (Lab σ) Unit)
      fun _ => Tended host P start J :=
  .modify fun lab hlab => ⟨hlab.1.tail (.turned lab (.pause d _)), hlab.2⟩

theorem signalTree_tends (pid : Nat) (signal : StopSignal) :
    Leads (Tended host P start J) (signalTree host pid signal) fun _ => Tended host P start J := by
  refine .bind (sys_tends (.signalGroup pid signal)) fun found => .ite (fun _ => ?_) fun _ => ?_
  · exact .pure fun _ h => h
  · exact .discard (sys_tends (.signalProcess pid signal))

theorem killListed_tends (own : Nat) (found : List (Nat × String)) :
    Leads (Tended host P start J) (killListed host own found) fun _ => Tended host P start J := by
  induction found with
  | nil => exact .pure fun _ h => h
  | cons entry rest ih =>
      obtain ⟨pid, command⟩ := entry
      refine .ite (fun _ => ih) fun _ => ?_
      exact .bind (record_tends trivial) fun _ => .bind (sys_tends (.signalProcess _ _)) fun _ =>
        .bind ih fun _ => .pure fun _ h => h

theorem sweep_tends (pattern : String) :
    Leads (Tended host P start J) (sweep host pattern) fun _ => Tended host P start J := by
  refine .ite (fun _ => .pure fun _ h => h) fun _ => .bind (sys_tends .listProcesses) fun listing => ?_
  cases listing with
  | error cause => exact .pure fun _ h => h
  | ok listing =>
      exact .bind (sys_tends .ownPid) fun own => .bind (killListed_tends own _) fun _ =>
        .bind (record_tends trivial) fun _ => .pure fun _ h => h

theorem sweepAfter_tends (p : Supervised) :
    Leads (Tended host P start J) (sweepAfter host p) fun _ => Tended host P start J := by
  unfold sweepAfter
  cases p.strayPattern with
  | none => exact .pure fun _ h => h
  | some pattern =>
      refine .bind (sweep_tends pattern) fun swept => ?_
      cases swept with
      | ok killed => exact .pure fun _ h => h
      | error cause => exact record_tends trivial

/-- An operation of the system changes nothing of a lab but its system. -/
theorem attempt_spec (operation : Attempt σ α) (lab : Lab σ) :
    Ends (· = lab) (attempt operation)
      (fun a lab' => ∃ system, operation.run.run lab.system = (.ok a, system) ∧
        lab' = { lab with system })
      fun e lab' => ∃ cause system, operation.run.run lab.system = (.error cause, system) ∧
        e = .io cause ∧ lab' = { lab with system } := by
  refine .bind (Q := fun result lab' => ∃ system, operation.run.run lab.system = (result, system) ∧
    lab' = { lab with system }) (.modifyGet fun _ h => h ▸ ⟨_, rfl, rfl⟩) fun result => ?_
  cases result with
  | ok a => exact .pure fun _ h => h
  | error cause =>
      refine .throw fun _ h => ?_
      obtain ⟨system, hrun, hlab⟩ := h
      exact ⟨cause, system, hrun, rfl, hlab⟩

theorem attempt_tends {operation : Attempt σ α} (h : host.Plain operation.run) :
    Ends (Tended host P start J) (attempt operation) (fun _ => Tended host P start J)
      fun e lab => (∃ cause, e = .io cause) ∧ Tended host P start J lab := by
  refine .bind (.lift (sys_tends h)) fun result => ?_
  cases result with
  | ok a => exact .pure fun _ h => h
  | error cause => exact .throw fun _ h => ⟨⟨cause, rfl⟩, h⟩

/-! ### Operations on a process that is held -/

/-- The process of a handle is found if it is held. -/
theorem proc_held {E : SupervisorError → Lab σ → Prop} (hJ : ∀ s, J s → s.Holds id pid) :
    Ends (Tended host P start J) (proc id)
      (fun p lab => Tended host P start J lab ∧ lab.supervisor.proc? id = some p ∧ p.pid = pid) E := by
  refine .bind (Q := fun t lab => t = lab ∧ Tended host P start J lab) (.get fun _ h => ⟨rfl, h⟩)
    fun t => .of_eq fun lab h => ?_
  obtain ⟨rfl, hlab⟩ := h
  obtain ⟨p, hp, hpid⟩ := hJ _ hlab.2
  rw [hp]
  exact .pure fun _ h => h ▸ ⟨hlab, hp, hpid⟩

/-- An operation on the process of a handle is refused if it is not held, and nothing changes. -/
theorem proc_unknown {f : Supervised → Supervising σ α} {Q : α → Lab σ → Prop}
    (h : lab.supervisor.proc? id = none) :
    Ends (· = lab) (proc id >>= f) Q fun e lab' => e = .unknownProcess id ∧ lab' = lab := by
  refine .bind (Q := fun _ _ => False) (.bind (Q := fun t lab' => t = lab ∧ lab' = lab)
    (.get fun _ h => ⟨h, h⟩) fun t => .of_eq fun lab' h' => ?_) fun _ => .absurd
  obtain ⟨rfl, rfl⟩ := h'
  rw [h]
  exact .throw fun _ h => ⟨rfl, h⟩

/-- An exit that was seen is written down. -/
theorem observe_tends {system : σ} (hid : P id) (hlab : Tending host P start lab)
    (hlive : lab.supervisor.Live id pid) (h : host.Tells pid o lab.system system) :
    Leads (· = { lab with system }) (observe id o : StateM (Lab σ) Unit)
      fun _ => Tended host P start (Ended · id pid o) := by
  refine .bind (Q := fun _ lab' => lab' = { lab with
    system, supervisor := lab.supervisor.update id fun p => { p with outcome := some o } })
    (.modify fun _ h => by rw [h]) fun _ => .modify fun lab' h' => ?_
  subst h'
  refine ⟨hlab.tail (.exited hid ⟨hlive, system, h, rfl⟩), ?_⟩
  obtain ⟨p, hp, hpid, -⟩ := hlive
  exact ⟨{ p with outcome := some o }, by rw [Supervisor.proc?_update, if_pos rfl, hp]; rfl, hpid, rfl⟩

theorem poll_tends (hid : P id) :
    Ends (Tended host P start (Holds · id pid)) (poll host id)
      (fun r => Tended host P start (Told · id pid r)) (Failed host P start) := by
  refine .bind (proc_held fun _ h => h) fun p => .of_eq fun lab h => ?_
  obtain ⟨⟨htending, -⟩, hp, hpid⟩ := h
  split
  · next o ho => exact .pure fun _ h => h ▸ ⟨htending, p, hp, hpid, ho⟩
  · next hnone =>
      have hlive : lab.supervisor.Live id p.pid := ⟨p, hp, rfl, hnone⟩
      subst hpid
      refine .bind ((attempt_spec _ lab).weaken (fun _ _ h => h) fun e lab' h => ?_)
        fun r => .of_eq fun lab' h => ?_
      · obtain ⟨cause, system, hrun, rfl, rfl⟩ := h
        have hhides : host.Hides p.pid lab.system system := .inl ⟨_, hrun, nofun⟩
        exact ⟨⟨cause, rfl⟩, htending.tail (.looked lab hid hlive hhides), lab, id, p.pid, hid,
          htending, hlive, .inl ⟨cause, by rw [hrun]⟩⟩
      · obtain ⟨system, hrun, rfl⟩ := h
        cases r with
        | none =>
            refine .pure fun _ h => h ▸ ⟨htending.tail (.looked lab hid hlive ?_), hlive⟩
            exact .inl ⟨_, hrun, fun _ h => nomatch h⟩
        | some o =>
            exact .bind (.lift (observe_tends hid htending hlive (.inl hrun))) fun _ =>
              .pure fun _ h => h

/-- A wait that ends without an outcome leaves the process alive. -/
theorem awaitExit_tends (hid : P id) (from_ : Instant) (limit : Duration) (tries : Nat) :
    Ends (Tended host P start (Live · id pid)) (awaitExit host id from_ limit tries)
      (fun r => Tended host P start (Told · id pid r)) (Failed host P start) := by
  induction tries with
  | zero => exact .pure fun _ h => h
  | succ tries ih =>
      refine .bind (.lift (sys_tends .now)) fun now => .ite (fun _ => .pure fun _ h => h) fun _ => ?_
      refine .bind ((poll_tends hid).conseq (fun _ h => ⟨h.1, h.2.holds⟩) (fun _ _ h => h)
        fun _ _ h => h) fun r => ?_
      cases r with
      | some o => exact .pure fun _ h => h
      | none => exact .bind (.lift (pause_tends pollStep)) fun _ => ih

theorem stop_tends (hid : P id) :
    Ends (Tended host P start (Live · id pid)) (stop host id pid)
      (fun _ => Tended host P start fun s => ∃ o, s.Ended id pid o) (Failed host P start) := by
  have hterminating : (Event.terminating id).Aside := trivial
  have hexpired : (Event.graceExpired id).Aside := trivial
  refine .bind (.lift (record_tends hterminating)) fun _ => .bind (.lift (signalTree_tends pid .term))
    fun _ => .bind (Q := fun _ => Tended host P start (Live · id pid)) (.get fun _ h => h)
    fun t => .bind (.lift (sys_tends .now)) fun now => .bind (awaitExit_tends hid _ _ _) fun r => ?_
  cases r with
  | some o => exact .pure fun _ h => ⟨h.1, o, h.2⟩
  | none =>
      refine .bind (.lift (record_tends hexpired)) fun _ =>
        .bind (.lift (signalTree_tends pid .kill)) fun _ => .of_eq fun lab h => ?_
      obtain ⟨htending, hlive⟩ := h
      refine .bind ((attempt_spec _ lab).weaken (fun _ _ h => h) fun e lab' h => ?_)
        fun o => .of_eq fun lab' h => ?_
      · obtain ⟨cause, system, hrun, rfl, rfl⟩ := h
        exact ⟨⟨cause, rfl⟩, htending.tail (.looked lab hid hlive (.inr ⟨cause, hrun⟩)), lab, id, pid,
          hid, htending, hlive, .inr ⟨cause, by rw [hrun]⟩⟩
      · obtain ⟨system, hrun, rfl⟩ := h
        exact .lift ((observe_tends hid htending hlive (.inr hrun)).weaken fun _ _ h => ⟨h.1, o, h.2⟩)

/-- A process that is held is ended, its outcome is the one that was written down, and its group is
not listed any more. -/
theorem terminate_tends (hid : P id) :
    Ends (Tended host P start (Holds · id pid)) (terminate host id)
      (fun o => Tended host P start fun s => s.Ended id pid o ∧ pid ∉ s.groups)
      (Failed host P start) := by
  refine .bind (proc_held fun _ h => h) fun p => .of_eq fun lab h => ?_
  obtain ⟨hlab, -, rfl⟩ := h
  have hrest : Ends (Tended host P start fun s => ∃ o, s.Ended id p.pid o)
      (do
        modifySupervisor fun s => s.unlistGroup p.pid
        sweepAfter host p
        return ((← get).supervisor.outcome? id).getD unknownOutcome : Supervising σ ExitOutcome)
      (fun o => Tended host P start fun s => s.Ended id p.pid o ∧ p.pid ∉ s.groups)
      (Failed host P start) := by
    refine .bind (Q := fun _ => Tended host P start fun s => ∃ o, s.Ended id p.pid o ∧
      p.pid ∉ s.groups) (.modify fun lab h => ?_) fun _ => .bind (.lift (sweepAfter_tends p))
      fun _ => ?_
    · obtain ⟨htending, o, hended⟩ := h
      exact ⟨htending.tail (.unlisted lab hid hended), o, hended, by simp⟩
    · refine .bind (Q := fun t lab => t = lab ∧ Tended host P start (fun s => ∃ o,
        s.Ended id p.pid o ∧ p.pid ∉ s.groups) lab) (.get fun _ h => ⟨rfl, h⟩) fun t =>
        .pure fun lab h => ?_
      obtain ⟨rfl, htending, o, hended, hunlisted⟩ := h
      rw [hended.outcome?]
      exact ⟨htending, hended, hunlisted⟩
  refine .bind ((poll_tends hid).conseq (fun lab' h => by rw [h]; exact hlab) (fun _ _ h => h)
    fun _ _ h => h) fun r => ?_
  cases r with
  | some o => exact hrest.conseq (fun _ h => ⟨h.1, o, h.2⟩) (fun _ _ h => h) fun _ _ h => h
  | none => exact .bind (stop_tends hid) fun _ => hrest

theorem terminateEach_tends (hP : ∀ id pid, start.supervisor.Live id pid → P id)
    (swept : List String) (ids : List ProcessId) :
    Leads (Tending host P start) (terminateEach host swept ids) fun _ => Tending host P start := by
  induction ids generalizing swept with
  | nil => exact .pure fun _ h => h
  | cons id rest ih =>
      refine .bind (Q := fun t lab => t = lab ∧ Tending host P start lab) (.get fun _ h => ⟨rfl, h⟩)
        fun t => .of_eq fun lab h => ?_
      obtain ⟨rfl, htending⟩ := h
      split
      · exact (ih swept).conseq (fun _ h => h ▸ htending) fun _ _ h => h
      next p hp =>
      refine .ite (fun _ => (ih swept).conseq (fun _ h => h ▸ htending) fun _ _ h => h)
        fun hdone => ?_
      have hlive : t.supervisor.Live id p.pid := ⟨p, hp, rfl, by simpa using hdone⟩
      have hid : P id := hP id p.pid (htending.live hlive)
      extract_lets others
      have hrest : ∀ swept, Leads (Tended host P start (Holds · id p.pid)) (others swept)
          fun _ => Tending host P start := by
        intro swept
        refine .bind (Q := fun _ => Tending host P start) (.attempt ((terminate_tends hid).weaken
          (fun _ _ h => h.1) fun _ _ h => h.2.1)) fun ended => ?_
        cases ended with
        | ok o => exact ih swept
        | error e =>
            exact .bind (Q := fun _ => Tending host P start)
              (.modify fun lab h => h.tail (.noted lab trivial)) fun _ => ih swept
      have hnow : ∀ swept : List String, Leads (· = t) (Pure.pure swept : StateM (Lab σ) _)
          fun _ => Tended host P start (Holds · id p.pid) :=
        fun _ => .pure fun _ h => h ▸ ⟨htending, hlive.holds⟩
      split
      · exact .bind (hnow swept) fun _ => hrest _
      · refine .ite (fun _ => .bind (.modify fun lab h => ?_) fun _ => hrest _)
          fun _ => .bind (hnow _) fun _ => hrest _
        subst h
        have hspared := htending.tail (.spared _ hid)
        exact ⟨hspared, (Tending.holds hspared).2 ((Tending.holds htending).1 hlive.holds)⟩

/-- Only processes that had not been seen to exit are concerned when all are ended. -/
theorem terminateAll_tends :
    Leads (· = start) (terminateAll host) fun _ =>
      Tending host (fun id => ∃ pid, start.supervisor.Live id pid) start := by
  refine .bind (Q := fun _ lab => lab = start) (.get fun _ h => h) fun t => ?_
  exact (terminateEach_tends (fun _ pid h => ⟨pid, h⟩) [] _).conseq (fun _ h => h ▸ .refl)
    fun _ _ h => h

theorem readOutput_tends :
    Ends (Tended host P start (Holds · id pid)) (readOutput host id)
      (fun _ => Tended host P start (Holds · id pid))
      fun e lab => (∃ cause, e = .io cause) ∧ Tended host P start (Holds · id pid) lab := by
  refine .bind ((proc_held fun _ h => h).weaken (fun _ _ h => h.1) fun _ _ h => h) fun p => ?_
  exact .bind (attempt_tends (.readFile p.capture)) fun bytes => .pure fun _ h => h

theorem outputLength_tends :
    Ends (Tended host P start (Holds · id pid)) (outputLength host id)
      (fun _ => Tended host P start (Holds · id pid))
      fun e lab => (∃ cause, e = .io cause) ∧ Tended host P start (Holds · id pid) lab :=
  .bind ((proc_held fun _ h => h).weaken (fun _ _ h => h.1) fun _ _ h => h) fun p =>
    attempt_tends (.fileSize p.capture)

theorem preserve_tends (dir name : String) :
    Ends (Tended host P start (Holds · id pid)) (preserve host id dir name)
      (fun _ => Tended host P start (Holds · id pid))
      fun _ => Tended host P start (Holds · id pid) := by
  refine .bind ((proc_held fun _ h => h).weaken (fun _ _ h => h.1) fun _ _ h => h) fun p => ?_
  refine .bind ((attempt_tends (.createDirectories dir)).weaken (fun _ _ h => h) fun _ _ h => h.2)
    fun _ => .bind ((attempt_tends (.copyFile p.capture _)).weaken (fun _ _ h => h)
      fun _ _ h => h.2) fun _ => ?_
  exact .bind (.lift (record_tends (show (Event.preserved id _).Aside from trivial)))
    fun _ => .pure fun _ h => h

/-- A process that is held is ended if need be, and then forgotten. -/
theorem release_spec (hid : P id) :
    Ends (Tended host P start (Holds · id pid)) (release host id)
      (fun _ lab => ∃ between o, Tending host P start between ∧ between.supervisor.Ended id pid o ∧
        Releases host id between lab)
      (Failed host P start) := by
  have hrest : Ends (Tended host P start fun s => ∃ o, s.Ended id pid o)
      (do
        let p ← proc id
        modifySupervisor fun s => (s.forget id).unlistGroup p.pid
        discard <| sys (host.removeFile p.capture).run
        record (.released id) : Supervising σ Unit)
      (fun _ lab => ∃ between o, Tending host P start between ∧ between.supervisor.Ended id pid o ∧
        Releases host id between lab)
      (Failed host P start) := by
    refine .bind (proc_held fun _ h => h.elim fun _ h => h.holds) fun p => .of_eq fun between h => ?_
    obtain ⟨⟨htending, o, hended⟩, hp, -⟩ := h
    refine .bind (Q := fun _ lab => lab = { between with
        supervisor := (between.supervisor.forget id).unlistGroup p.pid })
      (.modify fun _ h => by rw [h]) fun _ => .bind (Q := fun _ lab => lab = { between with
        system := ((host.removeFile p.capture).run.run between.system).2
        supervisor := (between.supervisor.forget id).unlistGroup p.pid })
      (.discard (.modifyGet fun _ h => by rw [h]; rfl)) fun _ => .modify fun lab h => ?_
    subst h
    obtain ⟨q, hq, hqpid, ho⟩ := hended
    cases hp.symm.trans hq
    exact ⟨between, o, htending, ⟨p, hp, hqpid, ho⟩, p, o, hp, ho, rfl⟩
  refine .bind (proc_held fun _ h => h) fun p => .of_eq fun lab h => ?_
  obtain ⟨⟨htending, -⟩, hp, hpid⟩ := h
  refine .ite (fun _ => ?_) fun hdone => ?_
  · have hheld : Tended host P start (Holds · id pid) lab := ⟨htending, p, hp, hpid⟩
    exact .bind (.discard ((terminate_tends hid).conseq (fun lab' h => by rw [h]; exact hheld)
      (fun o _ h => ⟨h.1, o, h.2.1⟩) fun _ _ h => h)) fun _ => hrest
  · refine hrest.conseq (fun _ h => h ▸ ⟨htending, ?_⟩) (fun _ _ h => h) fun _ _ h => h
    obtain ⟨o, ho⟩ := Option.isSome_iff_exists.1 (by simpa [Option.isSome_iff_ne_none] using hdone)
    exact ⟨o, p, hp, hpid, ho⟩

/-! ### Launching -/

theorem launch_spec (host : Host σ) (spec : LaunchSpec) (lab : Lab σ) :
    Ends (· = lab) (launch host spec) (fun id => Launches host spec id lab)
      fun _ => Unlaunched host lab := by
  unfold launch
  split
  · exact .throw fun _ h => by rw [h]; exact .empty lab
  refine .bind (Q := fun t lab' => t = lab ∧ lab' = lab) (.get fun _ h => ⟨h, h⟩) fun t =>
    .of_eq fun lab' h => ?_
  obtain ⟨rfl, rfl⟩ := h
  refine .bind (Q := fun r lab => ∃ system,
    (host.createCapture lab'.supervisor.captureDir).run.run lab'.system = (r, system) ∧
      lab = { lab' with system }) (.modifyGet fun _ h => h ▸ ⟨_, rfl, rfl⟩) fun r =>
    .of_eq fun lab h => ?_
  obtain ⟨between, hcapture, rfl⟩ := h
  cases r with
  | error cause => exact .throw fun _ h => by rw [h]; exact .uncaptured lab' hcapture
  | ok capture =>
      refine .bind (Q := fun r lab => ∃ system, (host.spawn spec capture).run.run between =
        (r, system) ∧ lab = { lab' with system }) (.modifyGet fun _ h => h ▸ ⟨_, rfl, rfl⟩)
        fun r => .of_eq fun lab h => ?_
      obtain ⟨after, hspawn, rfl⟩ := h
      cases r with
      | error cause =>
          refine .bind (Q := fun _ lab => lab = { lab' with
            system := ((host.removeFile capture).run.run after).2 })
            (.discard (.modifyGet fun _ h => by rw [h]; rfl)) fun _ => .throw fun _ h => ?_
          rw [h]
          exact .unspawned lab' hcapture hspawn
      | ok pid =>
          refine .bind (Q := fun t lab => t = lab ∧ lab = { lab' with system := after })
            (.get fun _ h => ⟨rfl, h⟩) fun t => .of_eq fun lab h => ?_
          obtain ⟨rfl, rfl⟩ := h
          refine .bind (Q := fun _ lab => lab = { lab' with
            system := after
            supervisor := (lab'.supervisor.enroll
              { label := spec.label, pid, capture, strayPattern := spec.strayPattern }).2 })
            (.set fun _ _ => rfl) fun _ => .bind (.modify fun lab h => ?_) fun _ =>
              .pure fun _ h => h
          subst h
          exact ⟨capture, between, pid, after, hcapture, hspawn, rfl, rfl⟩

/-- A process that was just launched is held. -/
theorem Launches.isSome {spec : LaunchSpec} {lab' : Lab σ} (h : Launches host spec id lab lab') :
    (lab'.supervisor.proc? id).isSome := by
  obtain ⟨capture, between, pid, after, -, -, rfl, rfl⟩ := h
  simp [Supervisor.proc?_enroll]

theorem waitFor_tends (hid : P id) (from_ : Instant) (limit : Duration) (tries : Nat) :
    Ends (Tended host P start (Holds · id pid)) (runToCompletion.waitFor host limit id from_ tries)
      (fun r => Tended host P start (Ended · id pid r.1)) (Failed host P start) := by
  have hend : Ends (Tended host P start (Holds · id pid))
      (do return (← terminate host id, true) : Supervising σ (ExitOutcome × Bool))
      (fun r => Tended host P start (Ended · id pid r.1)) (Failed host P start) :=
    .bind ((terminate_tends hid).weaken (fun _ _ h => ⟨h.1, h.2.1⟩) fun _ _ h => h) fun _ =>
      .pure fun _ h => h
  induction tries with
  | zero => exact hend
  | succ tries ih =>
      refine .bind (poll_tends hid) fun r => ?_
      cases r with
      | some o => exact .pure fun _ h => h
      | none =>
          refine .conseq (.bind (.lift (sys_tends .now)) fun now => .ite (fun _ => hend) fun _ =>
            .bind (.lift (pause_tends pollStep)) fun _ => ih) (fun _ h => ⟨h.1, h.2.holds⟩)
            (fun _ _ h => h) fun _ _ h => h

/-- A short command is launched, looked after, and released; if it fails, it may be left as it is.
-/
theorem runToCompletion_spec (host : Host σ) (spec : LaunchSpec) (limit : Duration) (lab : Lab σ) :
    Ends (· = lab) (runToCompletion host spec limit)
      (fun _ lab' => ∃ id launched between, Launches host spec id lab launched ∧
        Tending host (· = id) launched between ∧ Releases host id between lab')
      fun _ lab' => Unlaunched host lab lab' ∨ ∃ id launched, Launches host spec id lab launched ∧
        Tending host (· = id) launched lab' := by
  refine .bind (.adapt ((launch_spec host spec lab).weaken (fun _ _ h => h) fun _ _ h => .inl h))
    fun id => .of_eq fun launched hlaunched => ?_
  have hfailed : ∀ e lab', Failed host (· = id) launched e lab' → Unlaunched host lab lab' ∨
      ∃ id launched, Launches host spec id lab launched ∧ Tending host (· = id) launched lab' :=
    fun _ _ h => .inr ⟨id, launched, hlaunched, h.2.1⟩
  obtain ⟨p, hp⟩ := Option.isSome_iff_exists.1 hlaunched.isSome
  refine .bind (Q := fun _ => Tended host (· = id) launched (Holds · id p.pid))
    (.lift ((sys_tends .now).conseq (fun _ h => by rw [h]; exact .refl ⟨p, hp, rfl⟩)
      fun _ _ h => h)) fun now => ?_
  refine .bind (Q := fun _ => Tended host (· = id) launched (Holds · id p.pid))
    ((waitFor_tends (P := (· = id)) rfl now limit _).weaken (fun _ _ h => ⟨h.1, h.2.holds⟩) hfailed)
    fun r => .bind (readOutput_tends.weaken (fun _ _ h => h)
      fun _ _ h => .inr ⟨id, launched, hlaunched, h.2.1⟩) fun output => ?_
  refine .bind ((release_spec (P := (· = id)) rfl).weaken (fun _ lab' h => ?_) hfailed)
    fun _ => .pure fun _ h => h
  obtain ⟨between, o, htending, -, hreleases⟩ := h
  exact ⟨id, launched, between, hlaunched, htending, hreleases⟩

/-! ### Operations that give something up, from wherever they begin -/

/-- An operation on a process either is refused, and changes nothing, or the process is held. -/
theorem evolves_of_held {f : Supervised → Supervising σ α}
    (h : ∀ lab pid, Ends (Tended host (fun _ => True) lab (Holds · id pid)) (proc id >>= f)
      (fun _ => Evolves host lab) fun _ => Evolves host lab) :
    Leads (Evolves host start) (proc id >>= f).run fun _ => Evolves host start := by
  refine .of_eq fun lab hlab => ?_
  cases hp : lab.supervisor.proc? id with
  | none =>
      refine .attempt ((proc_unknown hp).weaken (fun _ _ h => h) fun e lab' h => ?_)
      rwa [h.2]
  | some p =>
      refine .attempt ((h lab p.pid).conseq (fun lab' h => ?_) (fun _ _ h => hlab.trans h)
        fun _ _ h => hlab.trans h)
      rw [h]
      exact .refl ⟨p, hp, rfl⟩

theorem release_evolves :
    Leads (Evolves host start) (release host id).run fun _ => Evolves host start := by
  refine evolves_of_held fun _ _ => (release_spec trivial).weaken (fun _ lab' h => ?_)
    fun _ _ h => h.2.1.evolves
  obtain ⟨between, o, htending, -, hreleases⟩ := h
  exact htending.evolves.tail (.released hreleases)

theorem runToCompletion_evolves (spec : LaunchSpec) (limit : Duration) :
    Leads (Evolves host start) (runToCompletion host spec limit).run
      fun _ => Evolves host start := by
  refine .of_eq fun lab hlab => .attempt ((runToCompletion_spec host spec limit lab).weaken
    (fun _ lab' h => ?_) fun _ lab' h => ?_)
  · obtain ⟨id, launched, between, hlaunched, htending, hreleases⟩ := h
    exact ((hlab.tail (.launched hlaunched)).trans htending.evolves).tail (.released hreleases)
  · rcases h with h | ⟨id, launched, hlaunched, htending⟩
    · exact hlab.tail (.unlaunched h)
    · exact (hlab.tail (.launched hlaunched)).trans htending.evolves

end Operations

end Lab

end DeviceLab

/-! ## Operations that give nothing up

A run takes processes up and looks after them all the time, but it gives one up only where it says
so. All other operations of the supervisor are rows of changes in which no handle is taken back.

* `Gain`: one change that takes no handle back; `Retains`: a row of them.
* `poll_retains`, `launch_retains`, ...: the operations that a run uses, from wherever they begin.
* `Retains.inUse`: whatever is in use stays in use.
* `Grows`: the journal only grows, even when everything is given up in the end (`close_grows`). -/

namespace DeviceLab

namespace Lab

variable {σ α ε : Type} {host : Host σ} {start lab lab' : Lab σ} {id : ProcessId}

open Supervisor (Holds)

/-- One change that takes no handle back. -/
inductive Gain (host : Host σ) : Lab σ → Lab σ → Prop where
  | tended {lab lab' : Lab σ} (h : Tends host (fun _ => True) lab lab') : Gain host lab lab'
  | launched {spec : LaunchSpec} {id : ProcessId} {lab lab' : Lab σ}
      (h : Launches host spec id lab lab') : Gain host lab lab'
  | unlaunched {lab lab' : Lab σ} (h : Unlaunched host lab lab') : Gain host lab lab'

/-- A row of such changes. -/
abbrev Retains (host : Host σ) : Lab σ → Lab σ → Prop := Relation.ReflTransGen (Gain host)

theorem Gain.change (h : Gain host lab lab') : Change host lab lab' := by
  cases h with
  | tended h => exact .tended h
  | launched h => exact .launched h
  | unlaunched h => exact .unlaunched h

theorem Retains.evolves (h : Retains host lab lab') : Evolves host lab lab' :=
  Relation.ReflTransGen.mono (fun _ _ => Gain.change) _ _ h

theorem Tending.retains {P : ProcessId → Prop} (h : Tending host P lab lab') :
    Retains host lab lab' :=
  Relation.ReflTransGen.mono (fun _ _ hstep => .tended (Tends.mono hstep fun _ _ => trivial)) _ _ h

/-! ### What is kept -/

/-- Nothing has been taken out of the journal. -/
def Grows (start lab : Lab σ) : Prop := ∃ new, lab.journal = start.journal ++ new

theorem Grows.refl : Grows start start := ⟨[], (List.append_nil _).symm⟩

theorem Grows.trans (h : Grows start lab) (h' : Grows lab lab') : Grows start lab' := by
  obtain ⟨new, hnew⟩ := h
  obtain ⟨last, hlast⟩ := h'
  exact ⟨new ++ last, by rw [hlast, hnew, List.append_assoc]⟩

theorem Grows.mem {event : Event} (h : Grows lab lab') (hevent : event ∈ lab.journal) :
    event ∈ lab'.journal := by
  obtain ⟨new, hnew⟩ := h
  rw [hnew]
  exact List.mem_append_left _ hevent

theorem Evolves.grows (h : Evolves host lab lab') : Grows lab lab' := by
  induction h with
  | refl => exact .refl
  | tail _ hstep ih => exact ih.trans hstep.journal

theorem Gain.released_iff (h : Gain host lab lab') (id : ProcessId) :
    .released id ∈ lab'.journal ↔ .released id ∈ lab.journal := by
  cases h with
  | tended h => exact (h.handles id).2.2
  | launched h => exact h.released_iff id
  | unlaunched h => cases h <;> exact Iff.rfl

/-- Whatever is in use stays in use. -/
theorem Retains.inUse (h : Retains host lab lab') (hid : InUse lab.journal id) :
    InUse lab'.journal id := by
  obtain ⟨⟨spec, hgiven⟩, hunreleased⟩ := hid
  refine ⟨⟨spec, h.evolves.grows.mem hgiven⟩, fun hreleased => hunreleased ?_⟩
  clear hgiven hunreleased
  induction h with
  | refl => exact hreleased
  | tail _ hstep ih => exact ih ((hstep.released_iff id).1 hreleased)

/-! ### Operations -/

theorem sys_retains {operation : StateM σ α} (h : host.Plain operation) :
    Preserves (Retains host start) (sys operation : StateM (Lab σ) α) :=
  .modifyGet fun lab hlab => hlab.tail (.tended (.turned lab h))

theorem record_retains {event : Event} (h : event.Aside) :
    Preserves (Retains host start) (record event : StateM (Lab σ) Unit) :=
  .modify fun lab hlab => hlab.tail (.tended (.noted lab h))

theorem note_retains (level : LogLevel) (message : String) :
    Preserves (Retains host start) (note level message : StateM (Lab σ) Unit) :=
  record_retains (show (Event.note level message).Aside from trivial)

theorem pause_retains (d : Duration) :
    Preserves (Retains host start) (pause host d : StateM (Lab σ) Unit) :=
  .modify fun lab hlab => hlab.tail (.tended (.turned lab (.pause d _)))

/-- What does not concern any process takes no handle back. -/
theorem retains_of_aside {x : StateM (Lab σ) α}
    (h : ∀ lab, Leads (Tended host (fun _ => True) lab fun _ => True) x
      fun _ => Tended host (fun _ => True) lab fun _ => True) :
    Preserves (Retains host start) x :=
  fun lab hlab => hlab.trans (Tending.retains (h lab lab (.refl trivial)).1)

/-- An operation on a process either is refused, and changes nothing, or the process is held. -/
theorem retains_of_held {f : Supervised → Supervising σ α}
    (h : ∀ lab pid, Ends (Tended host (fun _ => True) lab (Holds · id pid)) (proc id >>= f)
      (fun _ => Tending host (fun _ => True) lab) fun _ => Tending host (fun _ => True) lab) :
    Preserves (Retains host start) (proc id >>= f).run := by
  refine Leads.of_eq fun lab hlab => ?_
  cases hp : lab.supervisor.proc? id with
  | none =>
      refine .attempt ((proc_unknown hp).weaken (fun _ _ h => h) fun e lab' h => ?_)
      rwa [h.2]
  | some p =>
      refine .attempt ((h lab p.pid).conseq (fun lab' h => ?_) (fun _ _ h => hlab.trans h.retains)
        fun _ _ h => hlab.trans h.retains)
      rw [h]
      exact .refl ⟨p, hp, rfl⟩

theorem launch_retains (spec : LaunchSpec) :
    Preserves (Retains host start) (launch host spec).run :=
  Leads.of_eq fun lab hlab => .attempt ((launch_spec host spec lab).weaken
    (fun _ _ h => hlab.tail (.launched h)) fun _ _ h => hlab.tail (.unlaunched h))

theorem poll_retains : Preserves (Retains host start) (poll host id).run :=
  retains_of_held fun _ _ => (poll_tends trivial).weaken (fun _ _ h => h.1) fun _ _ h => h.2.1

theorem isRunning_retains : Preserves (Retains host start) (isRunning host id).run :=
  .attempt (.bind (.of_run poll_retains) fun _ => .pure)

theorem proc_retains :
    Preserves (Retains host start) (proc id : Supervising σ Supervised).run := by
  refine .attempt (.bind .get fun t => ?_)
  split
  · exact .pure
  · exact .throw

theorem readOutput_retains : Preserves (Retains host start) (readOutput host id).run :=
  retains_of_held fun _ _ => readOutput_tends.weaken (fun _ _ h => h.1) fun _ _ h => h.2.1

theorem outputLength_retains : Preserves (Retains host start) (outputLength host id).run :=
  retains_of_held fun _ _ => outputLength_tends.weaken (fun _ _ h => h.1) fun _ _ h => h.2.1

theorem preserve_retains (dir name : String) :
    Preserves (Retains host start) (preserve host id dir name).run :=
  retains_of_held fun _ _ => (preserve_tends dir name).weaken (fun _ _ h => h.1) fun _ _ h => h.1

theorem terminate_retains : Preserves (Retains host start) (terminate host id).run :=
  retains_of_held fun _ _ => (terminate_tends trivial).weaken (fun _ _ h => h.1)
    fun _ _ h => h.2.1

theorem terminateAll_retains : Preserves (Retains host start) (terminateAll host) :=
  Leads.of_eq fun _ hlab => terminateAll_tends.weaken fun _ _ h => hlab.trans h.retains

theorem sweep_retains (pattern : String) : Preserves (Retains host start) (sweep host pattern) :=
  retains_of_aside fun _ => sweep_tends pattern

/-! ### Giving everything up -/

theorem grows_of_evolves {x : StateM (Lab σ) α} (h : ∀ lab, Preserves (Evolves host lab) x) :
    Preserves (Grows start) x :=
  fun lab hlab => hlab.trans (h lab lab .refl).grows

theorem grows_of_retains {x : StateM (Lab σ) α} (h : ∀ lab, Preserves (Retains host lab) x) :
    Preserves (Grows start) x :=
  fun lab hlab => hlab.trans (h lab lab .refl).evolves.grows

theorem sys_grows (operation : StateM σ α) :
    Preserves (Grows start) (sys operation : StateM (Lab σ) α) :=
  .modifyGet fun _ h => h

theorem removeCaptures_grows (procs : List (ProcessId × Supervised)) :
    Preserves (Grows start) (removeCaptures host procs) := by
  induction procs with
  | nil => exact .pure
  | cons entry rest ih => exact .bind (.discard (sys_grows _)) fun _ => ih

theorem close_grows : Preserves (Grows start) (close host) := by
  have hrest : Preserves (Grows start) (do
      removeCaptures host (← get).supervisor.procs
      modifySupervisor fun s => { s with procs := [] } : StateM (Lab σ) Unit) :=
    .bind .get fun _ => .bind (removeCaptures_grows _) fun _ => .modify fun _ h => h
  refine .bind .get fun lab => .ite hrest ?_
  exact .bind (.modify fun lab h => h.trans ⟨_, rfl⟩) fun _ =>
    .bind (grows_of_retains fun _ => terminateAll_retains) fun _ => hrest

end Lab

end DeviceLab
