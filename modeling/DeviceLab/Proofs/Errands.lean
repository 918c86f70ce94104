import DeviceLab.Proofs.Sweeping

/-! # Short commands

A short command is launched, waited for, read and given up, all in one request.  When that is
answered, or when nothing could be launched, the supervisor holds what it held before; the command
has been seen to end, and its group is not listed.  When something fails in between, the request is
over at once, and the command is not given up: one that could not be looked at may go on running,
and one whose output could not be read has ended, but is held under a handle that nobody has been
told.

* `Lab.Traceless`: nothing is left of a short command.
* `Lab.Abandoned`: what was launched is left as it is.
* `Lab.waitFor_same`: a wait that fails has changed nothing about what is held.
* `Lab.runToCompletion_ends`: all that can come of a short command.
* `Lab.runToCompletion_traceless_iff`: when nothing is left of it, and what is left otherwise. -/

namespace DeviceLab

variable {σ α : Type} {host : Host σ}

open Supervisor (Holds Live Ended)

namespace Lab

/-- Nothing is left of a short command: what is held is what was held, and if a process was started,
the system has told of its end, and its group is not listed. -/
structure Traceless (host : Host σ) (spec : LaunchSpec) (lab lab' : Lab σ) : Prop where
  held : lab'.supervisor.procs = lab.supervisor.procs
  ended : ∀ id launched, (launch host spec).run.run lab = (.ok id, launched) →
    ∃ pid o, launched.supervisor.Live id pid ∧ Seen host launched id o lab' ∧
      pid ∉ lab'.supervisor.groups

/-- What was launched is still there: it could not be looked at, or its output could not be read. -/
inductive Abandoned (host : Host σ) (id : ProcessId) (launched : Lab σ) (cause : IoError) :
    Lab σ → Prop where
  /-- Nothing is known of its end, and nothing that is held has changed since the launch. -/
  | unseen {lab' : Lab σ} {pid : Nat} (hstuck : Stuck host (· = id) launched)
      (hsame : lab'.supervisor = launched.supervisor) (hlive : lab'.supervisor.Live id pid)
      (hlisted : pid ∈ lab'.supervisor.groups) : Abandoned host id launched cause lab'
  /-- It has been seen to exit. -/
  | unread {between : Lab σ} {p : Supervised} {o : ExitOutcome} {system : σ}
      (htending : Tending host (· = id) launched between)
      (hp : between.supervisor.proc? id = some p) (hended : p.outcome = some o)
      (hread : (host.readFile p.capture).run.run between.system = (.error cause, system)) :
      Abandoned host id launched cause { between with system }

section Failing

variable {s : Supervisor} {lab : Lab σ} {id : ProcessId}

/-! ### Failures that change nothing about what is held -/

/-- What concerns the system alone leaves the supervisor as it is. -/
theorem same_of_tends {x : StateM (Lab σ) α}
    (h : ∀ start, Leads (Tended host (fun _ => True) start (· = s)) x
      fun _ => Tended host (fun _ => True) start (· = s)) :
    Leads (·.supervisor = s) x fun _ lab => lab.supervisor = s :=
  .of_eq fun start hstart => (h start).conseq (fun lab hlab => by rw [hlab]; exact .refl hstart)
    fun _ _ h => h.2

theorem proc_same : Ends (·.supervisor = s) (proc id : Supervising σ Supervised)
    (fun _ lab => lab.supervisor = s) fun _ lab => lab.supervisor = s := by
  refine .bind (Q := fun _ lab => lab.supervisor = s) (.get fun _ h => h) fun t => ?_
  split
  · exact .pure fun _ h => h
  · exact .throw fun _ h => h

theorem attempt_same (operation : Attempt σ α) :
    Ends (·.supervisor = s) (attempt operation) (fun _ lab => lab.supervisor = s)
      fun _ lab => lab.supervisor = s := by
  refine .bind (Q := fun _ lab => lab.supervisor = s) (.modifyGet fun _ h => h) fun r => ?_
  cases r with
  | ok a => exact .pure fun _ h => h
  | error cause => exact .throw fun _ h => h

/-- An exit is always written down. -/
theorem observe_ends {o : ExitOutcome} {P : Lab σ → Prop} {E : SupervisorError → Lab σ → Prop} :
    Ends P (observe id o : Supervising σ Unit) (fun _ _ => True) E :=
  .bind (Q := fun _ _ => True) (.modify fun _ _ => trivial) fun _ => .modify fun _ _ => trivial

/-- Only a look that shows an exit changes what is held. -/
theorem poll_same : Ends (·.supervisor = s) (poll host id)
    (fun r lab => r = none → lab.supervisor = s) fun _ lab => lab.supervisor = s := by
  refine .bind proc_same fun p => ?_
  split
  · exact .pure fun _ _ => nofun
  · refine .bind (attempt_same _) fun r => ?_
    cases r with
    | none => exact .pure fun _ h _ => h
    | some o => exact .bind observe_ends fun _ => .pure fun _ _ => nofun

theorem awaitExit_same (from_ : Instant) (limit : Duration) (tries : Nat) :
    Ends (·.supervisor = s) (awaitExit host id from_ limit tries)
      (fun r lab => r = none → lab.supervisor = s) fun _ lab => lab.supervisor = s := by
  induction tries with
  | zero => exact .pure fun _ h _ => h
  | succ tries ih =>
      refine .bind (.lift (same_of_tends fun _ => sys_tends .now)) fun now =>
        .ite (fun _ => .pure fun _ h _ => h) fun _ => .bind poll_same fun r => ?_
      cases r with
      | some o => exact .pure fun _ _ => nofun
      | none =>
          refine .conseq (.bind (.lift (same_of_tends fun _ => pause_tends pollStep)) fun _ => ih)
            (fun _ h => h rfl) (fun _ _ h => h) fun _ _ h => h

theorem stop_same (pid : Nat) : Ends (·.supervisor = s) (stop host id pid) (fun _ _ => True)
    fun _ lab => lab.supervisor = s := by
  have hsignal (signal : StopSignal) : Leads (·.supervisor = s) (signalTree host pid signal)
      fun _ lab => lab.supervisor = s := same_of_tends fun _ => signalTree_tends pid signal
  refine .bind (Q := fun _ lab => lab.supervisor = s) (.modify fun _ h => h) fun _ =>
    .bind (.lift (hsignal .term)) fun _ =>
    .bind (Q := fun _ lab => lab.supervisor = s) (.get fun _ h => h) fun t =>
    .bind (.lift (same_of_tends fun _ => sys_tends .now)) fun now =>
    .bind (awaitExit_same _ _ _) fun r => ?_
  cases r with
  | some o => exact .pure fun _ _ => trivial
  | none =>
      exact .bind (Q := fun _ lab => lab.supervisor = s) (.modify fun _ h => h rfl) fun _ =>
        .bind (.lift (hsignal .kill)) fun _ => .bind (attempt_same _) fun o => observe_ends

/-- An end that fails has changed nothing about what is held. -/
theorem terminate_same : Ends (·.supervisor = s) (terminate host id) (fun _ _ => True)
    fun _ lab => lab.supervisor = s := by
  refine .bind proc_same fun p => ?_
  have hrest : Ends (fun _ => True) (do
      modifySupervisor fun s => s.unlistGroup p.pid
      sweepAfter host p
      return ((← get).supervisor.outcome? id).getD unknownOutcome : Supervising σ ExitOutcome)
      (fun _ _ => True) fun _ lab => lab.supervisor = s :=
    .bind (Q := fun _ _ => True) (.modify fun _ _ => trivial) fun _ =>
      .bind (Q := fun _ _ => True) (.lift fun _ _ => trivial) fun _ =>
      .bind (Q := fun _ _ => True) (.get fun _ _ => trivial) fun _ => .pure fun _ _ => trivial
  refine .bind poll_same fun r => ?_
  cases r with
  | some o => exact hrest.conseq (fun _ _ => trivial) (fun _ _ h => h) fun _ _ h => h
  | none =>
      exact .bind ((stop_same p.pid).conseq (fun _ h => h rfl) (fun _ _ h => h) fun _ _ h => h)
        fun _ => hrest

theorem waitFor_same (from_ : Instant) (limit : Duration) (tries : Nat) :
    Ends (·.supervisor = s) (runToCompletion.waitFor host limit id from_ tries) (fun _ _ => True)
      fun _ lab => lab.supervisor = s := by
  have hend : Ends (·.supervisor = s)
      (do return (← terminate host id, true) : Supervising σ (ExitOutcome × Bool))
      (fun _ _ => True) fun _ lab => lab.supervisor = s :=
    .bind terminate_same fun _ => .pure fun _ _ => trivial
  induction tries with
  | zero => exact hend
  | succ tries ih =>
      refine .bind poll_same fun r => ?_
      cases r with
      | some o => exact .pure fun _ _ => trivial
      | none =>
          refine .conseq (.bind (.lift (same_of_tends fun _ => sys_tends .now)) fun now =>
            .ite (fun _ => hend) fun _ =>
              .bind (.lift (same_of_tends fun _ => pause_tends pollStep)) fun _ => ih)
            (fun _ h => h rfl) (fun _ _ h => h) fun _ _ h => h

/-- Reading the output of a process fails only if its file cannot be read. -/
theorem readOutput_fails {p : Supervised} (hp : lab.supervisor.proc? id = some p) :
    Ends (· = lab) (readOutput host id) (fun _ _ => True)
      fun e lab' => ∃ cause system, e = .io cause ∧
        (host.readFile p.capture).run.run lab.system = (.error cause, system) ∧
        lab' = { lab with system } := by
  refine .bind (proc_found hp) fun q => .of_eq fun lab' h => ?_
  obtain ⟨rfl, rfl⟩ := h
  refine .bind ((attempt_spec (host.readFile q.capture) lab').weaken (fun _ _ _ => trivial)
    fun e lab₁ h => ?_) fun bytes => .pure fun _ h => h
  obtain ⟨cause, system, hread, rfl, rfl⟩ := h
  exact ⟨cause, system, rfl, hread, rfl⟩

end Failing

section Errand

variable {P : ProcessId → Prop} {spec : LaunchSpec} {lab launched between lab' : Lab σ}
  {id : ProcessId} {pid : Nat} {o : ExitOutcome}

/-! ### What else is held -/

theorem Tending.ids (h : Tending host P lab lab') : lab'.supervisor.ids = lab.supervisor.ids := by
  induction h with
  | refl => rfl
  | tail _ hstep ih =>
      refine Eq.trans ?_ ih
      cases hstep with
      | exited hid h =>
          obtain ⟨-, system, -, rfl⟩ := h
          exact ids_update _ _ _
      | spared hid => exact ids_update _ _ _
      | _ => rfl

theorem forget_update (s : Supervisor) (id : ProcessId) (change : Supervised → Supervised) :
    ((s.update id change).forget id).procs = (s.forget id).procs := by
  obtain ⟨procs, nextId, grace, captureDir, groups⟩ := s
  simp only [Supervisor.forget, Supervisor.update]
  induction procs with
  | nil => rfl
  | cons entry rest ih =>
      obtain ⟨other, p⟩ := entry
      by_cases hother : other = id
      · simpa [hother] using ih
      · simpa [hother] using ih

/-- What is done about one process changes nothing of the others. -/
theorem Tending.forget (h : Tending host (· = id) lab lab') :
    (lab'.supervisor.forget id).procs = (lab.supervisor.forget id).procs := by
  induction h with
  | refl => rfl
  | tail _ hstep ih =>
      refine Eq.trans ?_ ih
      cases hstep with
      | exited hid h =>
          obtain ⟨-, system, -, rfl⟩ := h
          cases hid
          exact forget_update _ _ _
      | spared hid =>
          cases hid
          exact forget_update _ _ _
      | _ => rfl

theorem Launches.forget (h : Launches host spec id lab launched)
    (hnext : lab.supervisor.proc? ⟨lab.supervisor.nextId⟩ = none) :
    (launched.supervisor.forget id).procs = lab.supervisor.procs := by
  obtain ⟨capture, between, pid, after, -, -, rfl, rfl⟩ := h
  have hothers : ∀ entry ∈ lab.supervisor.procs, entry.1 ≠ ⟨lab.supervisor.nextId⟩ := by
    simpa [Supervisor.proc?] using hnext
  simpa [Supervisor.forget, Supervisor.enroll, List.filter_eq_self] using fun id p hp =>
    hothers (id, p) hp

theorem Launches.ids (h : Launches host spec id lab launched) :
    launched.supervisor.ids = lab.supervisor.ids ++ [id] := by
  obtain ⟨capture, between, pid, after, -, -, rfl, rfl⟩ := h
  simp [Supervisor.ids, Supervisor.enroll]

/-- A new process is alive, and its group is listed. -/
theorem Launches.listed (h : Launches host spec id lab launched)
    (hnext : lab.supervisor.proc? ⟨lab.supervisor.nextId⟩ = none) :
    ∃ pid, launched.supervisor.Live id pid ∧ pid ∈ launched.supervisor.groups := by
  obtain ⟨capture, between, pid, after, -, -, rfl, rfl⟩ := h
  exact ⟨pid, ⟨_, Supervisor.proc?_enroll_self hnext, rfl, rfl⟩,
    Supervisor.mem_insertGroup.2 (.inl rfl)⟩

/-! ### All that can come of a short command -/

theorem runToCompletion_ends (host : Host σ) (spec : LaunchSpec) (limit : Duration) (lab : Lab σ)
    (hnext : lab.supervisor.proc? ⟨lab.supervisor.nextId⟩ = none) :
    Ends (· = lab) (runToCompletion host spec limit)
      (fun _ lab' => ∃ id launched between pid o,
        (launch host spec).run.run lab = (.ok id, launched) ∧
        Launches host spec id lab launched ∧ Tending host (· = id) launched between ∧
        between.supervisor.Ended id pid o ∧ Releases host id between lab')
      fun e lab' => (∃ cause, e = .launch cause ∧
          (launch host spec).run.run lab = (.error cause, lab') ∧ Unlaunched host lab lab') ∨
        ∃ cause id launched, e = .io cause ∧ (launch host spec).run.run lab = (.ok id, launched) ∧
          Launches host spec id lab launched ∧ Abandoned host id launched cause lab' := by
  refine .bind (Q := fun id launched => (launch host spec).run.run lab = (.ok id, launched) ∧
      Launches host spec id lab launched)
    (.adapt ((Ends.exact.and (launch_spec host spec lab)).conseq (fun _ h => ⟨h, h⟩)
      (fun _ _ h => h) fun cause _ h => .inl ⟨cause, rfl, h.1, h.2⟩))
    fun id => .of_eq fun launched hlaunched => ?_
  obtain ⟨hrun, hlaunches⟩ := hlaunched
  obtain ⟨pid, hlive, hlisted⟩ := hlaunches.listed hnext
  refine .bind (Q := fun _ lab' => Tended host (· = id) launched (Holds · id pid) lab' ∧
      lab'.supervisor = launched.supervisor)
    (.lift (((sys_tends .now).and (same_of_tends fun _ => sys_tends .now)).conseq
      (fun lab' h => by rw [h]; exact ⟨.refl hlive.holds, rfl⟩) fun _ _ h => h)) fun now => ?_
  refine .bind (Q := fun _ => Tended host (· = id) launched fun s => ∃ o, s.Ended id pid o)
    (((waitFor_tends (P := (· = id)) rfl now limit _).and (waitFor_same now limit _)).weaken
      (fun _ _ h => ⟨h.1.1, _, h.1.2⟩) fun e lab' h => ?_) fun r => .of_eq fun waited hwaited => ?_
  · obtain ⟨⟨⟨cause, rfl⟩, -, hstuck⟩, hsame⟩ := h
    exact .inr ⟨cause, id, launched, rfl, hrun, hlaunches,
      .unseen hstuck hsame (hsame ▸ hlive) (hsame ▸ hlisted)⟩
  obtain ⟨htending, o, hended⟩ := hwaited
  obtain ⟨p, hp, hpid, ho⟩ := hended
  have hread : Ends (· = waited) (readOutput host id)
      (fun _ => Tended host (· = id) waited (Holds · id pid)) _ :=
    (readOutput_tends.and (readOutput_fails hp)).conseq
      (fun lab' h => by rw [h]; exact ⟨.refl ⟨p, hp, hpid⟩, rfl⟩) (fun _ _ h => h.1)
      fun _ _ h => h.2
  refine .bind (hread.weaken (fun _ _ h => h) fun e lab' h => ?_) fun output => ?_
  · obtain ⟨cause, system, rfl, hread, rfl⟩ := h
    exact .inr ⟨cause, id, launched, rfl, hrun, hlaunches, .unread htending hp ho hread⟩
  -- what is known to have ended can be given up
  refine .bind ((release_spec (P := (· = id)) rfl).weaken (fun _ lab' h => ?_) fun e lab' h => ?_)
    fun _ => .pure fun _ h => h
  · obtain ⟨between, o, hbetween, hended, hreleases⟩ := h
    exact ⟨id, launched, between, pid, o, hrun, hlaunches, htending.trans hbetween, hended,
      hreleases⟩
  · obtain ⟨-, -, stuck, other, pid', rfl, hbetween, hlive, -⟩ := h
    exact absurd hlive (Tending.ended hbetween ⟨p, hp, hpid, ho⟩).not_live

/-- What has been launched, seen to end and given up has left nothing. -/
theorem Releases.traceless (hnext : lab.supervisor.proc? ⟨lab.supervisor.nextId⟩ = none)
    (hrun : (launch host spec).run.run lab = (.ok id, launched))
    (hlaunches : Launches host spec id lab launched)
    (htending : Tending host (· = id) launched between)
    (hended : between.supervisor.Ended id pid o) (hreleases : Releases host id between lab') :
    Traceless host spec lab lab' := by
  obtain ⟨new, hlive, -⟩ := hlaunches.listed hnext
  have hunlisted : pid ∉ lab'.supervisor.groups := fun h =>
    ((hreleases.groups hended.holds pid).1 h).2 rfl
  cases hlive.holds.unique (htending.holds.1 hended.holds)
  obtain ⟨pid', lab₁, lab₂, hbefore, hexits, hafter⟩ :=
    htending.evolves.advances.seen_of_new (fun _ _ h => h.not_live hlive) hended
  have hseen : Seen host launched id o lab' :=
    ⟨pid', lab₁, lab₂, hbefore, hexits, hafter.tail (.changed (.released hreleases))⟩
  refine ⟨?_, fun id' launched' hrun' => ?_⟩
  · have hforget : lab'.supervisor.procs = (between.supervisor.forget id).procs := by
      obtain ⟨p, o, -, -, rfl⟩ := hreleases
      rfl
    rw [hforget, htending.forget, hlaunches.forget hnext]
  · cases hrun.symm.trans hrun'
    exact ⟨pid, o, hlive, hseen, hunlisted⟩

/-- Where nothing was launched there is nothing to leave. -/
theorem Unlaunched.traceless {cause : LaunchError} (h : Unlaunched host lab lab')
    (hrun : (launch host spec).run.run lab = (.error cause, lab')) :
    Traceless host spec lab lab' := by
  refine ⟨by rw [h.supervisor], fun id launched hrun' => ?_⟩
  cases hrun.symm.trans hrun'

/-- What is abandoned is held. -/
theorem Abandoned.ids {cause : IoError} (h : Abandoned host id launched cause lab') :
    lab'.supervisor.ids = launched.supervisor.ids := by
  cases h with
  | unseen hstuck hsame => rw [hsame]
  | unread htending hp hended hread => exact htending.ids

end Errand

end Lab

/-! ### Small systems on which something fails -/

namespace Sample

/-- A command that is over at once. -/
def errand : LaunchSpec := { label := "short", argv := ["true"] }

/-- A system on which no output can be read. -/
def unreadable : Host ChildTable := { reusingPids with readFile := fun _ => throw .notFound }

/-- A system on which no child can be looked at. -/
def blind : Host ChildTable := { reusingPids with tryWait := fun _ => throw .notFound }

/-- A short command is given five seconds. -/
def run (host : Host σ) (spec : LaunchSpec) (lab : Lab σ) :
    Except SupervisorError Lab.Completion × Lab σ :=
  (Lab.runToCompletion host spec (.ofSeconds 5)).run.run lab

end Sample

namespace Lab

/-! ### The main result -/

section Result

variable {spec : LaunchSpec} {limit : Duration} {lab lab' : Lab σ}
  {r : Except SupervisorError Completion}

/-- `runToCompletion` is `Traceless` exactly if the command is answered, or could not be launched.
It can fail in one other way only, and then what was launched is `Abandoned`: it is as it was after
the launch and could not be looked at, or it has ended and its output could not be read.  The next
handle has to be free (`hnext`), as it is in every lab that requests lead to. -/
theorem runToCompletion_traceless_iff
    (hnext : lab.supervisor.proc? ⟨lab.supervisor.nextId⟩ = none)
    (hrun : (runToCompletion host spec limit).run.run lab = (r, lab')) :
    (Traceless host spec lab lab' ↔
      (∃ c, r = .ok c) ∨ ∃ cause, r = .error (.launch cause)) ∧
    ∀ e, r = .error e → (∃ cause, e = .launch cause ∧ lab'.supervisor = lab.supervisor) ∨
      ∃ cause id launched, e = .io cause ∧ (launch host spec).run.run lab = (.ok id, launched) ∧
        lab'.supervisor.ids = lab.supervisor.ids ++ [id] ∧
        Abandoned host id launched cause lab' := by
  have hends := runToCompletion_ends host spec limit lab hnext lab rfl
  rw [hrun] at hends
  cases r with
  | ok c =>
      obtain ⟨id, launched, between, pid, o, hlaunch, hlaunches, htending, hended, hreleases⟩ :=
        hends
      exact ⟨⟨fun _ => .inl ⟨c, rfl⟩, fun _ =>
        hreleases.traceless hnext hlaunch hlaunches htending hended⟩, nofun⟩
  | error e =>
      rcases hends with ⟨cause, rfl, hlaunch, hun⟩ |
        ⟨cause, id, launched, rfl, hlaunch, hlaunches, h⟩
      · refine ⟨⟨fun _ => .inr ⟨cause, rfl⟩, fun _ => hun.traceless hlaunch⟩, fun e he => ?_⟩
        cases he
        exact .inl ⟨cause, rfl, hun.supervisor⟩
      · have hids : lab'.supervisor.ids = lab.supervisor.ids ++ [id] := h.ids.trans hlaunches.ids
        refine ⟨⟨fun htraceless => ?_, fun hanswered => ?_⟩, fun e he => ?_⟩
        · have hsame : lab'.supervisor.ids = lab.supervisor.ids := by
            rw [Supervisor.ids, htraceless.held, Supervisor.ids]
          simp [hids] at hsame
        · rcases hanswered with ⟨c, hc⟩ | ⟨cause, hcause⟩
          · cases hc
          · cases hcause
        · cases he
          exact .inr ⟨cause, id, launched, rfl, hlaunch, hids, h⟩

/-- On the small system two programs are held.  A short command is answered, and leaves nothing. -/
theorem errand_traceless :
    (Sample.run Sample.leavingHelpers Sample.errand (Sample.labAfter Sample.launches)).1 =
      .ok { outcome := .exited 0, output := "TEST-PASS", timedOut := false } ∧
    (Sample.run Sample.leavingHelpers Sample.errand
      (Sample.labAfter Sample.launches)).2.supervisor.ids =
      [⟨1⟩, ⟨2⟩] ∧
    Traceless Sample.leavingHelpers Sample.errand (Sample.labAfter Sample.launches)
      (Sample.run Sample.leavingHelpers Sample.errand (Sample.labAfter Sample.launches)).2 := by
  have hanswered : (Sample.run Sample.leavingHelpers Sample.errand (Sample.labAfter Sample.launches)).1 =
      .ok { outcome := .exited 0, output := "TEST-PASS", timedOut := false } := by decide +kernel
  have hnext : (Sample.labAfter Sample.launches).supervisor.proc? ⟨3⟩ = none := by decide +kernel
  exact ⟨hanswered, by decide +kernel,
    (runToCompletion_traceless_iff hnext rfl).1.2 (.inl ⟨_, hanswered⟩)⟩

/-- The output of a short command cannot be read: it has ended, and is held and listed.  A child
cannot be looked at: it is held, and runs on. -/
theorem errand_abandoned :
    ((Sample.run Sample.unreadable Sample.errand { system := {} }).1 = .error (.io .notFound) ∧
      (Sample.run Sample.unreadable Sample.errand { system := {} }).2.supervisor.ids = [⟨1⟩] ∧
      (Sample.run Sample.unreadable Sample.errand { system := {} }).2.supervisor.groups = [7] ∧
      ¬Traceless Sample.unreadable Sample.errand { system := {} }
        (Sample.run Sample.unreadable Sample.errand { system := {} }).2) ∧
    (Sample.run Sample.blind (Sample.worker "slow") { system := {} }).1 = .error (.io .notFound) ∧
      (Sample.run Sample.blind (Sample.worker "slow") { system := {} }).2.supervisor.groups = [7] ∧
      (Sample.run Sample.blind (Sample.worker "slow") { system := {} }).2.system.children =
        [(7, false)] ∧
      ¬Traceless Sample.blind (Sample.worker "slow") { system := {} }
        (Sample.run Sample.blind (Sample.worker "slow") { system := {} }).2 := by
  refine ⟨⟨by rfl, by rfl, by rfl, fun h => ?_⟩, by rfl, by rfl, by rfl, fun h => ?_⟩
  · cases h.held
  · cases h.held

end Result

end Lab

end DeviceLab
