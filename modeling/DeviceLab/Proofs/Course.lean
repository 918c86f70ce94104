import DeviceLab.Proofs.Ledger
import DeviceLab.Proofs.Devices
import DeviceLab.Proofs.Checks
import DeviceLab.Proofs.Triple
import DeviceLab.Run.Controller

/-! # The course of a run

`execute_spec` puts the phases together, from a run that has not begun up to the collection of the
results.  Either all phases are gone through, and then their outcomes and the accounts of the suites
are known; or the run stops in one of them, in a state of which enough is known to end it.

* `Begun`: the state of a run that has not done anything.
* `Standing`: the phase, the devices, and the phases that moves have been made in.
* `Accounted`: the accounts of the suites after they have run.
* `Halted`: where a run stands at the end of its phases, however it got there.
* `untilSuites`: the phases before the suites, which are the first part of `execute`. -/

/-! ## What a valid configuration selects

`Config.validate_suites` says what it means for the selected suites that a configuration has passed
its checks: there are some, none twice, each is defined and may have at least one attempt, and there
is a device for each. -/

namespace DeviceLab

namespace Config

/-- What a run relies on about the suites of a configuration. -/
structure SuitesValid (c : Config) : Prop where
  nonempty : c.selected ≠ []
  nodup : c.selected.Nodup
  defined : ∀ name ∈ c.selected, ∃ spec, c.suite? name = some spec ∧ 1 ≤ spec.runLimit
  devices : c.selected.length ≤ c.devices.length

/-- A suite that is not denied every run has at least one. -/
theorem runLimit_pos {suite : SuiteSpec} (h : suite.maxRuns ≠ some 0) : 1 ≤ suite.runLimit := by
  unfold SuiteSpec.runLimit
  cases hruns : suite.maxRuns with
  | none =>
      rw [Option.getD_none]
      split <;> decide
  | some n =>
      rw [hruns, ne_eq, Option.some.injEq] at h
      exact Nat.one_le_iff_ne_zero.2 h

/-- An accepted configuration can be run as far as its suites are concerned. -/
theorem validate_suites {c : Config} (h : c.validate = .ok ()) : c.SuitesValid := by
  have hvalid := c.validate_grants.of_ok h
  refine ⟨hvalid.someSuite, hvalid.suites.nodup, fun name hname => ?_, hvalid.enough⟩
  obtain ⟨suite, hsuite, hchecked⟩ := hvalid.suites.suites name hname
  exact ⟨suite, hsuite, runLimit_pos hchecked.maxRuns⟩

end Config

end DeviceLab

/-! ## The phases of a run -/

namespace DeviceLab

/-- Every selected suite of a valid configuration may have an attempt. -/
theorem Config.SuitesValid.runLimit {c : Config} (hv : c.SuitesValid) :
    ∀ name ∈ c.selected, 1 ≤ c.runLimit name := by
  intro name hname
  obtain ⟨spec, hspec, hpos⟩ := hv.defined name hname
  rw [Config.runLimit, hspec]
  exact hpos

namespace Run

variable {σ β κ : Type} {s : Setup σ β} {kept : Device → κ} {p q : Phase} {n k : Nat}
  {r r' : Run σ β}

/-- A run that has not done anything. -/
structure Begun (r : Run σ β) : Prop where
  machine : r.machine = .upTo .idle
  devices : r.devices = []
  phases : r.phases = []
  results : r.results = []
  resultLogs : r.resultLogs = []
  moves : r.moves.toList = []

/-- Where a run stands. -/
structure Standing (s : Setup σ β) (kept : Device → κ) (p : Phase) (n : Nat) (r : Run σ β) :
    Prop where
  machine : r.machine = .upTo p
  acquired : Acquired s kept r
  moves : ∀ m ∈ r.moves.toList, m.Before n

/-- The accounts of the suites are closed; all suites have been taken up, if the run has come as far
as they. -/
def Accounted (c : Config) (p : Phase) (r : Run σ β) : Prop :=
  ∃ count refused, Ledger c refused (r.desk count []) ∧
    (Phase.suitesRunning.rank ≤ p.rank → Reach c.selected count refused)

/-- Where a run stands at the end of its phases. -/
structure Halted (s : Setup σ β) (kept : Device → κ) (p : Phase) (r : Run σ β) : Prop extends
    Standing s kept p Phase.devicesStopped.rank r where
  rank : p.rank ≤ Phase.resultsCollected.rank
  accounts : Accounted s.plan.config p r

/-- There are no records of suites. -/
def Unrecorded (r : Run σ β) : Prop := r.results = [] ∧ r.resultLogs = []

/-- What is recorded before the suites run. -/
def Recorded (verdicts : List Severity) (r : Run σ β) : Prop :=
  r.phases.map PhaseOutcome.severity = verdicts ∧ Unrecorded r

/-- What the phases before the suites say: the devices have been started, and the packages are
installed unless the second outcome says something else. -/
def Equipped (r : Run σ β) : Prop :=
  ∃ verdict, r.phases.map PhaseOutcome.severity = [.success, verdict] ∧
    (verdict = .success ↔ AllInstalled r.calls)

/-- All suites have been taken up, and each has its record. -/
def AllRecorded (c : Config) (r : Run σ β) : Prop := Ledger c none (r.desk c.selected.length [])

theorem AllRecorded.names {c : Config} (h : AllRecorded c r) :
    (r.results.map SuiteSummary.suite).Perm c.selected := by
  have hnames := Ledger.names h
  rwa [desk, List.take_length] at hnames

/-- Once all suites have been recorded, the accounts are closed. -/
theorem AllRecorded.accounted {c : Config} (h : AllRecorded c r) : Accounted c p r :=
  ⟨_, _, h, fun _ => .inl ⟨rfl, rfl⟩⟩

/-! ### Which steps they survive -/

theorem Standing.robust (hp : p ≠ .acquiringDevices) (hn : p.rank < n) :
    Robust kept (Move.Fits p) (Standing s kept p n : Run σ β → Prop) := by
  intro r r' h hadds
  refine ⟨hadds.machine.trans h.machine, Acquired.robust (fun c hc hkind => hp ?_) r r' h.acquired
    hadds, fun m hm => ?_⟩
  · have hphase := hc _ rfl
    rw [hkind] at hphase
    exact hphase.symm
  · obtain ⟨new, hnew, hfits⟩ := hadds.moves
    rw [hnew] at hm
    rcases List.mem_append.1 hm with hm | hm
    · exact h.moves m hm
    · exact (hfits m hm).before hn

theorem Standing.mono (h : Standing s kept p n r) (hn : n ≤ k) : Standing s kept p k r :=
  ⟨h.machine, h.acquired, fun m hm => (h.moves m hm).mono hn⟩

/-- Records do not matter for where a run stands. -/
theorem Standing.congr (h : Standing s kept p n r) (hmachine : r'.machine = r.machine)
    (hdevices : r'.devices = r.devices) (hmoves : r'.moves = r.moves) :
    Standing s kept p n r' := by
  refine ⟨hmachine.trans h.machine, ⟨?_, ?_⟩, by rw [hmoves]; exact h.moves⟩
  · rw [Run.calls, hmoves, hdevices]
    exact h.acquired.calls
  · rw [hdevices]
    exact h.acquired.devices

theorem robust_unrecorded {m : Move → Prop} : Robust kept m (Unrecorded : Run σ β → Prop) :=
  fun _ _ h hadds => ⟨hadds.results.trans h.1, hadds.resultLogs.trans h.2⟩

theorem robust_recorded {m : Move → Prop} {verdicts : List Severity} :
    Robust kept m (Recorded verdicts : Run σ β → Prop) := by
  intro r r' h hadds
  exact ⟨by rw [hadds.phases]; exact h.1, robust_unrecorded r r' h.2 hadds⟩

theorem steady_recorded {verdicts : List Severity} :
    Steady kept (Recorded verdicts : Run σ β → Prop) :=
  ⟨robust_recorded, fun _ _ h => h⟩

theorem Equipped.robust {m : Move → Prop} (hm : ∀ c, m (.called c) → c.kind ≠ .install) :
    Robust kept m (Equipped : Run σ β → Prop) := by
  rintro r r' ⟨verdict, hphases, hverdict⟩ hadds
  refine ⟨verdict, by rw [hadds.phases]; exact hphases, ?_⟩
  exact (robust_allInstalled hm (verdict = .success) r r' hverdict.symm hadds).symm

theorem Equipped.steady : Steady kept (Equipped : Run σ β → Prop) :=
  ⟨Equipped.robust (fun _ h => nomatch h), fun _ _ h => h⟩

theorem steady_ledger {c : Config} {refused : Option (String × LaunchError)} {count : Nat} :
    Steady kept fun r : Run σ β => Ledger c refused (r.desk count []) := by
  refine ⟨robust_ledger.mono fun m hm => ?_, fun _ _ h => h⟩
  cases m with
  | looked cancelled => exact ⟨rfl, nofun⟩
  | entered phase => exact ⟨rfl, nofun⟩
  | _ => cases hm

/-! ### Entering a phase -/

/-- The next phase is entered, or the run stops where it stands. -/
theorem enter_standing {I : Run σ β → Prop} (hI : Steady kept I) (hnext : p.next = some q) :
    Ends (fun r => Standing s kept p n r ∧ I r) (enter s q)
      (fun _ r => Standing s kept q n r ∧ I r)
      fun stop r => (∃ outcome, stop = .phase outcome) ∧ Standing s kept p n r ∧ I r := by
  have hbefore : ∀ m : Move, m.phase? = none → m.Before n :=
    fun m hm other hother => by rw [hm] at hother; cases hother
  refine (enter_spec ((Acquired.steady.and (steady_moves hbefore)).and hI) hnext).conseq
    (fun r hr => ⟨hr.1.machine, ⟨hr.1.acquired, hr.1.moves⟩, hr.2⟩) (fun _ r hr => ?_)
    fun stop r hr => ⟨hr.1, ?_⟩
  · exact ⟨⟨hr.1, hr.2.1.1, hr.2.1.2⟩, hr.2.2⟩
  · exact ⟨⟨hr.2.1, hr.2.2.1.1, hr.2.2.1.2⟩, hr.2.2.2⟩

/-- Before the suites run their accounts are empty. -/
theorem ledger_empty {c : Config} (hnone : ∀ m ∈ r.moves.toList, ¬m.In .suitesRunning)
    (hrecords : Unrecorded r) : Ledger c none (r.desk 0 []) := by
  obtain ⟨hresults, hlogs⟩ := hrecords
  rw [desk, hresults, hlogs]
  refine ⟨by simp, List.nodup_nil, by simp, by simp, fun name _ m hm => ?_, fun name cause => ?_,
    ⟨by simp, by simp, by simp⟩⟩
  · have hphase := hnone m hm
    cases m with
    | launched suite attempt process => exact absurd rfl hphase
    | ended run judgement output => exact absurd rfl hphase
    | _ => simp [Move.suite?]
  · exact iff_of_false (fun hm => hnone _ hm rfl) (by simp)

/-- A run that stops before its suites. -/
theorem Standing.halted (h : Standing s kept p n r) (hrecords : Unrecorded r)
    (hn : n ≤ Phase.suitesRunning.rank) (hp : p.rank < Phase.suitesRunning.rank) :
    Halted s kept p r where
  toStanding := h.mono (Nat.le_trans hn (by decide))
  rank := Nat.le_trans (Nat.le_of_lt hp) (by decide)
  accounts := ⟨_, _, ledger_empty (fun m hm => (h.moves m hm).not_in hn) hrecords,
    fun hge => absurd hge (Nat.not_le_of_lt hp)⟩

/-! ### The phases one by one -/

/-- The run stops, and is in a state in which it can be ended. -/
def Stops (s : Setup σ β) (kept : Device → κ) (stop : Stop) (r : Run σ β) : Prop :=
  ∀ outcome, stop = .phase outcome → ∃ p, Halted s kept p r

theorem acquire_phase (hb : s.backend.Keeps kept) :
    Ends (fun r => Standing s kept .acquiringDevices 1 r ∧ r.devices = [] ∧ Recorded [] r)
      (acquireDevices s)
      (fun _ r => Standing s kept .acquiringDevices 2 r ∧ Recorded [] r) (Stops s kept) := by
  refine (acquireDevices_spec (I := fun r => r.machine = .upTo .acquiringDevices ∧
      (∀ m ∈ r.moves.toList, m.Before 2) ∧ Recorded [] r) hb (fun r lab memory c h hc => ?_)
    fun _ _ h => h).conseq (fun r hr => ?_) (fun _ r hr => ?_) fun stop r hr outcome _ => ?_
  · refine ⟨h.1, fun m hm => ?_, h.2.2⟩
    rw [Array.toList_push] at hm
    rcases List.mem_append.1 hm with hm | hm
    · exact h.2.1 m hm
    · rw [List.mem_singleton.1 hm]
      exact (Move.fits_call (p := .acquiringDevices) (by rw [hc]; rfl)).before (by decide)
  · have hnone : acquired r.calls = [] := by
      rw [hr.1.acquired.calls, hr.2.1]
      rfl
    exact ⟨hr.2.1, hnone, hr.1.machine, fun m hm => (hr.1.moves m hm).mono (by decide), hr.2.2⟩
  · exact ⟨⟨hr.2.1, hr.1, hr.2.2.1⟩, hr.2.2.2⟩
  · obtain ⟨-, hacquired, hmachine, hmoves, hrecorded⟩ := hr
    exact ⟨_, Standing.halted ⟨hmachine, hacquired, hmoves⟩ hrecorded.2 (by decide) (by decide)⟩

theorem start_phase (hb : s.backend.Keeps kept) :
    Ends (fun r => Standing s kept .devicesStarting 2 r ∧ Recorded [] r) (startDevices s)
      (fun _ r => Standing s kept .devicesStarting 3 r ∧ Recorded [.success] r)
      (Stops s kept) := by
  refine (startDevices_spec (I := fun r => Standing s kept .devicesStarting 3 r ∧ Recorded [] r)
    hb ((Standing.robust (by decide) (by decide)).and robust_recorded) fun r words hr => ?_).conseq
    (fun r hr => ⟨hr.1.mono (by decide), hr.2⟩) (fun _ _ h => h)
    fun stop r hr outcome _ => ⟨_, hr.2.1.halted hr.2.2.2 (by decide) (by decide)⟩
  refine ⟨hr.1.congr rfl rfl rfl, ?_, hr.2.2⟩
  rw [List.map_append, hr.2.1]
  rfl

theorem capture_phase (hb : s.backend.Keeps kept) :
    Leads (fun r => Standing s kept .devicesHealthy 3 r ∧ Recorded [.success] r)
      (startLogCapture s)
      fun _ r => Standing s kept .devicesHealthy 4 r ∧ Recorded [.success] r :=
  (startLogCapture_keeps hb (((Standing.robust (by decide) (by decide)).and
    robust_recorded).mono fun _ h => h.fits)).conseq (fun r hr => ⟨hr.1.mono (by decide), hr.2⟩)
    fun _ _ h => h

theorem install_phase (hb : s.backend.Keeps kept) :
    Leads (fun r => Standing s kept .artifactInstalling 4 r ∧ Recorded [.success] r)
      (installArtifacts s)
      fun _ r => Standing s kept .artifactInstalling 5 r ∧ Equipped r ∧ Unrecorded r := by
  refine (installArtifacts_spec (I := fun r => Standing s kept .artifactInstalling 5 r ∧
      Recorded [.success] r) hb ((Standing.robust (by decide) (by decide)).and robust_recorded)
    fun r o hr ho => ?_).conseq (fun r hr => ?_) fun _ _ h => h
  · refine ⟨hr.1.congr rfl rfl rfl, ⟨o.severity, ?_, ho⟩, hr.2.2⟩
    rw [List.map_append, hr.2.1]
    rfl
  · -- nothing is installed before this phase
    refine ⟨⟨hr.1.mono (by decide), hr.2⟩, allInstalled_of_others fun c hc hkind => ?_⟩
    obtain ⟨m, hm, hcall⟩ := List.mem_filterMap.1 hc
    cases m with
    | called c' =>
        cases hcall
        have hbefore := hr.1.moves _ hm .artifactInstalling (by rw [Move.phase?, hkind]; rfl)
        exact absurd hbefore (by decide)
    | _ => cases hcall

theorem suites_phase (hb : s.backend.Keeps kept) (hv : s.plan.config.SuitesValid) (passes : Nat)
    (blocked : List (Nat × String)) :
    Ends (fun r => Standing s kept .suitesRunning 5 r ∧ Equipped r ∧ Unrecorded r)
      (runSuites s passes blocked)
      (fun _ r => Standing s kept .suitesRunning 6 r ∧ Equipped r ∧ AllRecorded s.plan.config r)
      (Stops s kept) := by
  have hframe : Apart kept (Move.Fits .suitesRunning) fun r : Run σ β =>
      Standing s kept .suitesRunning 6 r ∧ Equipped r := by
    refine ⟨(Standing.robust (by decide) (by decide)).and (Equipped.robust fun c hc hkind => ?_),
      fun r results logNames resultLogs h => ⟨h.1.congr rfl rfl rfl, h.2⟩⟩
    have hphase := hc _ rfl
    rw [hkind] at hphase
    cases hphase
  refine ((runSuites_keeps hb hframe passes blocked).and
    (runSuites_spec hv.nodup hv.runLimit passes blocked)).conseq (fun r hr => ?_) (fun _ r hr => ?_)
    fun stop r hr outcome hstop => ?_
  · exact ⟨⟨hr.1.mono (by decide), hr.2.1⟩,
      ledger_empty (fun m hm => (hr.1.moves m hm).not_in (by decide)) hr.2.2⟩
  · exact ⟨hr.1.1, hr.1.2, hr.2⟩
  · obtain ⟨count, refused, hledger, hreach⟩ := hr.2 outcome hstop
    exact ⟨_, hr.1.1.mono (by decide), by decide, count, refused, hledger, fun _ => hreach⟩

/-! ### The whole course -/

/-- The phases before the suites run; gives why the suites of some devices cannot run. -/
def untilSuites (s : Setup σ β) : Running σ β (List (Nat × String)) := do
  enter s .acquiringDevices
  acquireDevices s
  enter s .devicesStarting
  startDevices s
  enter s .devicesHealthy
  startLogCapture s
  enter s .artifactInstalling
  let blocked ← installArtifacts s
  enter s .suitesRunning
  return blocked

/-- The phases are those before the suites, the suites, and the collection of the results. -/
theorem execute_eq (s : Setup σ β) (passes : Nat) :
    execute s passes = (do
      let blocked ← untilSuites s
      runSuites s passes blocked
      enter s .resultsCollected) := by
  simp only [execute, untilSuites, bind_assoc, pure_bind]

/-- A statement that depends neither on the phase a run is in nor on the outcomes of phases, and that
the moves of the other phases leave true, is still true when the suites are to run. -/
theorem untilSuites_keeps {I : Run σ β → Prop} (hb : s.backend.Keeps kept) (hI : Steady kept I)
    (hphase : ∀ p : Phase, p ≠ .suitesRunning → Robust kept (Move.Fits p) I)
    (hdevice : ∀ r d, I r → I { r with devices := r.devices ++ [d] })
    (houtcome : ∀ r o, I r → I { r with phases := r.phases ++ [o] }) :
    Ends I (untilSuites s) (fun _ => I) fun _ => I := by
  have hstep : ∀ p : Phase, p ≠ .suitesRunning → Robust kept (Move.In p) I :=
    fun p hp => (hphase p hp).mono fun _ h => h.fits
  refine .bind (enter_keeps hI _) fun _ => ?_
  refine .bind ((acquireDevices_keeps (fun r lab memory c hr hc => ?_) hdevice).weaken
    (fun _ _ h => h) fun _ _ h => h.2) fun _ => ?_
  · have hmoved := hphase .acquiringDevices (by decide) r _ hr (adds_move r (m := .called c)
      (Move.fits_call (by rw [hc]; rfl)))
    exact hphase .acquiringDevices (by decide) _ _ hmoved
      ⟨rfl, rfl, rfl, rfl, rfl, rfl, [], by simp, by simp⟩
  refine .bind (enter_keeps hI _) fun _ => ?_
  refine .bind ((startDevices_spec hb (hphase _ (by decide)) fun r _ => houtcome r _).weaken
    (fun _ _ h => h) fun _ _ h => h.2) fun _ => ?_
  refine .bind (enter_keeps hI _) fun _ => ?_
  refine .bind (.lift (startLogCapture_keeps hb (hstep _ (by decide)))) fun _ => ?_
  refine .bind (enter_keeps hI _) fun _ => ?_
  refine .bind (.lift (installArtifacts_keeps hb (hstep _ (by decide)) houtcome)) fun blocked => ?_
  exact .bind (enter_keeps hI _) fun _ => .pure fun _ h => h

/-- A run comes to its suites, or stops before. -/
theorem untilSuites_spec (hb : s.backend.Keeps kept) :
    Ends Begun (untilSuites s)
      (fun _ r => Standing s kept .suitesRunning 5 r ∧ Equipped r ∧ Unrecorded r)
      (Stops s kept) := by
  have hempty : Steady kept fun r : Run σ β => r.devices = [] :=
    ⟨fun r r' h hadds => List.eq_nil_of_length_eq_zero (by rw [hadds.length_devices, h]; rfl),
      fun _ _ h => h⟩
  have hrecords : Steady kept (Unrecorded : Run σ β → Prop) := ⟨robust_unrecorded, fun _ _ h => h⟩
  have hfirst : Steady kept (Recorded [] : Run σ β → Prop) := steady_recorded
  refine .bind ((enter_standing (p := .idle) (n := 1) (hempty.and hfirst) rfl).conseq
    (fun r hr => ?_) (fun _ _ h => h)
    fun stop r hr _ _ => ⟨_, hr.2.1.halted hr.2.2.2.2 (by decide) (by decide)⟩) fun _ => ?_
  · refine ⟨⟨hr.machine, ⟨?_, by simp [hr.devices]⟩, ?_⟩, hr.devices, ?_, hr.results,
      hr.resultLogs⟩
    · simp [acquired, Run.calls, hr.moves, hr.devices]
    · simp [hr.moves]
    · simp [hr.phases]
  refine .bind (acquire_phase hb) fun _ => ?_
  refine .bind ((enter_standing (p := .acquiringDevices) steady_recorded rfl).weaken (fun _ _ h => h)
    fun stop r hr _ _ => ⟨_, hr.2.1.halted hr.2.2.2 (by decide) (by decide)⟩) fun _ => ?_
  refine .bind (start_phase hb) fun _ => ?_
  refine .bind ((enter_standing (p := .devicesStarting) steady_recorded rfl).weaken (fun _ _ h => h)
    fun stop r hr _ _ => ⟨_, hr.2.1.halted hr.2.2.2 (by decide) (by decide)⟩) fun _ => ?_
  refine .bind (.lift (capture_phase hb)) fun _ => ?_
  refine .bind ((enter_standing (p := .devicesHealthy) steady_recorded rfl).weaken (fun _ _ h => h)
    fun stop r hr _ _ => ⟨_, hr.2.1.halted hr.2.2.2 (by decide) (by decide)⟩) fun _ => ?_
  refine .bind (.lift (install_phase hb)) fun blocked => ?_
  refine .bind ((enter_standing (p := .artifactInstalling) (Equipped.steady.and hrecords)
    rfl).weaken (fun _ _ h => h)
    fun stop r hr _ _ => ⟨_, hr.2.1.halted hr.2.2.2 (by decide) (by decide)⟩) fun _ => ?_
  exact .pure fun _ h => h

/-- A run goes through its phases, or stops in one of them. -/
theorem execute_spec (hb : s.backend.Keeps kept) (hv : s.plan.config.SuitesValid)
    (passes : Nat) :
    Ends Begun (execute s passes)
      (fun _ r => Halted s kept .resultsCollected r ∧ Equipped r ∧ AllRecorded s.plan.config r)
      (Stops s kept) := by
  rw [execute_eq]
  refine .bind (untilSuites_spec hb) fun blocked => .bind (suites_phase hb hv passes blocked)
    fun _ => ?_
  refine (enter_standing (p := .suitesRunning) (Equipped.steady.and steady_ledger) rfl).weaken
    (fun _ r hr => ?_) fun stop r hr _ _ => ?_
  · exact ⟨⟨hr.1.mono (by decide), by decide, AllRecorded.accounted hr.2.2⟩, hr.2⟩
  · exact ⟨_, hr.2.1.mono (by decide), by decide, AllRecorded.accounted hr.2.2.2⟩

/-- After its phases a run stops the devices, unless it breaks off; what stopped it is written down
before, and it has failed. -/
theorem carryOut_ends {I J Q : Run σ β → Prop} {K : Stop → Run σ β → Prop}
    {E : Breakdown → Run σ β → Prop} {passes : Nat}
    (hexecute : Ends I (execute s passes) (fun _ => J) K)
    (hdone : Leads J (stopDevices s) fun _ => Q)
    (hfailed : ∀ outcome, Leads (K (.phase outcome))
      (do addPhase outcome; follow .failed; stopDevices s : StateM (Run σ β) Unit) fun _ => Q)
    (hbroken : ∀ cause r, K (.broken cause) r → E cause r) :
    Ends I (carryOut s passes) (fun _ => Q) E := by
  refine .bind (Q := fun result r => match result with
    | .ok _ => J r
    | .error stop => K stop r) (.lift (.attempt hexecute)) fun result => ?_
  cases result with
  | ok _ => exact .lift hdone
  | error stop =>
      cases stop with
      | phase outcome =>
          have hlifted := Ends.lift (E := E) (hfailed outcome)
          exact hlifted
      | broken cause => exact .bind (.throw (Q := fun _ _ => False) (hbroken cause)) fun _ => .absurd

end Run

end DeviceLab
