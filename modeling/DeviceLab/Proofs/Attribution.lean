import DeviceLab.Proofs.Reporting

/-! # Which phase is blamed

An error that ends a run is written down with the phase it happened in, and the run then fails from
the phase its machine is in.  Some errors name their phase outright and some take it from the
machine; the two agree on every way out of every phase, so the report blames the phase of the error
it shows.

* `Blamed`: a run was stopped in a phase, and the error blames that phase.
* `execute_blames`: whatever stops the phases of a run, it is blamed on the phase they have come to.
* `Attributed`: a run has been closed as the outcome of its phases says.
* `Finishes.attributed`: this is so in every report. -/

namespace DeviceLab

/-- The phases of a run that goes well. -/
def Phase.course : List Phase :=
  [.idle, .acquiringDevices, .devicesStarting, .devicesHealthy, .artifactInstalling,
    .suitesRunning, .resultsCollected, .devicesStopped, .done]

/-- A run that has not failed has gone along the course up to its phase. -/
theorem Lifecycle.upTo_history {p : Phase} (hp : p.rank ≤ Phase.done.rank) :
    (upTo p).history <+: Phase.course ∧ (upTo p).history.getLast? = some p := by
  cases p with
  | failed => exact absurd hp (by decide)
  | _ => exact ⟨by decide, by decide⟩

namespace Run

variable {σ β α ε : Type} {s : Setup σ β} {p target : Phase} {kept : Device → Unit}

/-- The run has come to a phase. -/
def InPhase (p : Phase) (r : Run σ β) : Prop := r.machine = .upTo p

/-- The run has been stopped in a phase; an error that is to be written down is fatal and belongs to
that phase. -/
def Blamed (p : Phase) (stop : Stop) (r : Run σ β) : Prop :=
  ∀ o, stop = .phase o → InPhase p r ∧ o.phase = p ∧ o.severity = .fatal

theorem InPhase.robust {q : Move → Prop} : Robust kept q (InPhase p : Run σ β → Prop) :=
  fun _ _ h hadds => hadds.machine.trans h

theorem InPhase.apart {q : Move → Prop} : Apart kept q (InPhase p : Run σ β → Prop) :=
  ⟨InPhase.robust, fun _ _ _ _ h => h⟩

/-- An error that names its phase outright is right if the run has come to that phase. -/
theorem throw_blames {Q : α → Run σ β → Prop} {kind : FailureKind} {words : String}
    (hkind : kind.severity = .fatal) :
    Ends (InPhase p) (throw (.phase (.failure p kind words)) : Running σ β α) Q (Blamed p) :=
  .throw fun _ hr _ ho => by
    cases ho
    exact ⟨hr, rfl, hkind⟩

/-- A cancelled run blames the phase it is in, whichever that is. -/
theorem stopCancelled_blames {Q : α → Run σ β → Prop} :
    Ends (InPhase p) (stopCancelled : Running σ β α) Q (Blamed p) := by
  refine .bind (Q := fun run r => InPhase p run ∧ InPhase p r) (.get fun _ hr => ⟨hr, hr⟩)
    fun run => .throw fun r hr o ho => ?_
  cases ho
  exact ⟨hr.2, congrArg Lifecycle.phase hr.1, rfl⟩

/-- A phase that may follow is refused only to a cancelled run. -/
theorem enter_blames (hnext : p.next = some target) :
    Ends (InPhase p) (enter s target) (fun _ => InPhase target) (Blamed p) := by
  have hphase : Robust (fun _ => ()) (fun _ => True) (InPhase p : Run σ β → Prop) := InPhase.robust
  refine .bind (.lift (look_keeps hphase s.host fun _ => trivial)) fun cancelled => ?_
  refine .ite (fun _ => .bind stopCancelled_blames fun _ => .absurd) fun _ => ?_
  refine .bind (Q := fun run r => InPhase p run ∧ InPhase p r) (.get fun _ hr => ⟨hr, hr⟩)
    fun run => ?_
  dsimp only
  split
  · next l hl =>
      refine .modify fun r hr => ?_
      rw [show run.machine = .upTo p from hr.1, Lifecycle.transition_upTo hnext] at hl
      exact (Except.ok.inj hl).symm
  · next e he =>
      refine .throw fun r hr => ?_
      rw [show run.machine = .upTo p from hr.1, Lifecycle.transition_upTo hnext] at he
      cases he

/-! ### The phases -/

theorem acquireOne_blames (index : Nat) (slot : DeviceSlot) :
    Ends (InPhase .acquiringDevices) (acquireOne s index slot) (fun _ => InPhase .acquiringDevices)
      (Blamed .acquiringDevices) := by
  refine .bind (Q := fun run _ => InPhase .acquiringDevices run) (.get fun _ hr => hr) fun run => ?_
  dsimp only
  refine .bind (Q := fun _ => InPhase .acquiringDevices) (.set fun _ hr => hr) fun _ => ?_
  split
  · exact .modify fun _ hr => hr
  · exact throw_blames rfl

theorem acquireDevices_blames :
    Ends (InPhase .acquiringDevices) (acquireDevices s) (fun _ => InPhase .acquiringDevices)
      (Blamed .acquiringDevices) := by
  have hfrom : ∀ (slots : List DeviceSlot) (index : Nat), Ends (InPhase .acquiringDevices)
      (acquireFrom s index slots) (fun _ => InPhase .acquiringDevices)
      (Blamed .acquiringDevices) := by
    intro slots
    induction slots with
    | nil => exact fun _ => .pure fun _ hr => hr
    | cons slot rest ih => exact fun index => .bind (acquireOne_blames index slot) fun _ => ih _
  exact hfrom _ 0

/-- A wait that the clock does not get to the end of stops the run without an error to write
down. -/
theorem sleep_blames (d : Duration) :
    Ends (InPhase p) (sleep s.host d : Running σ β Bool) (fun _ => InPhase p) (Blamed p) := by
  have hphase : Robust (fun _ => ()) (fun _ => True) (InPhase p : Run σ β → Prop) := InPhase.robust
  refine (sleep_keeps hphase s.host (fun _ => trivial) d).weaken (fun _ _ hr => hr)
    fun stop r h o ho => ?_
  rw [h.1.1] at ho
  cases ho

/-- Of the ways to give up the start, two name the phase and a cancelled wait reads it. -/
theorem startDevices_blames :
    Ends (InPhase .devicesStarting) (startDevices s) (fun _ => InPhase .devicesStarting)
      (Blamed .devicesStarting) := by
  have hb := s.backend.keeps_nothing
  refine startDevices_ends (F := InPhase .devicesStarting) (fun attempt => startOnce_leads
    (B := InPhase .devicesStarting) (A := InPhase .devicesStarting) (fun _ hr => hr) ?_
      (abortAttempt_keeps hb InPhase.robust))
    (fun o r hr hphase hfatal o' ho => ?_) fun attempt =>
      (sleep_blames _).weaken (fun cancelled r hr => ?_) fun _ _ h => h
  · exact (startAttempt_keeps hb InPhase.robust).weaken (fun _ _ hr => hr) fun _ _ hr => hr
  · cases ho
    exact ⟨hr, hphase, hfatal⟩
  · cases cancelled with
    | true =>
        rintro _ ⟨⟩
        exact ⟨hr, congrArg Lifecycle.phase hr, rfl⟩
    | false => exact hr

/-- Of the ways to stop the suites, a launch that fails names the phase and the wish to cancel reads
it; the others leave no error to write down. -/
theorem runSuites_blames (passes : Nat) (blocked : List (Nat × String)) :
    Ends (InPhase .suitesRunning) (runSuites s passes blocked) (fun _ => InPhase .suitesRunning)
      (Blamed .suitesRunning) := by
  have hphase : ∀ {r r' : Run σ β}, Acts s r r' → InPhase .suitesRunning r →
      InPhase .suitesRunning r' := InPhase.apart.acts s.backend.keeps_nothing
  refine .of_eq fun r hr => (runSuites_steps (named_any s r) passes blocked).weaken
    (fun _ _ h => hphase h.acts hr) fun stop r' h o ho => ?_
  have hreached := hphase h.1 hr
  subst ho
  cases h.2 with
  | aborted => exact ⟨hreached, rfl, rfl⟩
  | halted => exact ⟨hreached, congrArg Lifecycle.phase hreached, rfl⟩

/-- A run was stopped in one of the phases up to the suites, and that one is blamed. -/
def BlamedBeforeEnd (stop : Stop) (r : Run σ β) : Prop :=
  ∃ p, p.rank ≤ Phase.suitesRunning.rank ∧ Blamed p stop r

/-- Whatever stops the phases of a run, it is blamed on the phase they have come to. -/
theorem execute_blames (passes : Nat) :
    Ends (InPhase .idle) (execute s passes) (fun _ => InPhase .resultsCollected)
      (BlamedBeforeEnd : Stop → Run σ β → Prop) := by
  have hb := s.backend.keeps_nothing
  have hstep : ∀ {α : Type} {p : Phase} {x : Running σ β α} {Q : α → Run σ β → Prop},
      p.rank ≤ Phase.suitesRunning.rank → Ends (InPhase p) x Q (Blamed p) →
      Ends (InPhase p) x Q BlamedBeforeEnd :=
    fun hp h => h.weaken (fun _ _ hq => hq) fun _ _ hblamed => ⟨_, hp, hblamed⟩
  refine .bind (hstep (by decide) (enter_blames rfl)) fun _ => ?_
  refine .bind (hstep (by decide) acquireDevices_blames) fun _ => ?_
  refine .bind (hstep (by decide) (enter_blames rfl)) fun _ => ?_
  refine .bind (hstep (by decide) (startDevices_blames)) fun _ => ?_
  refine .bind (hstep (by decide) (enter_blames rfl)) fun _ => ?_
  refine .bind (.lift (startLogCapture_keeps hb InPhase.robust)) fun _ => ?_
  refine .bind (hstep (by decide) (enter_blames rfl)) fun _ => ?_
  refine .bind (.lift (installArtifacts_keeps hb InPhase.robust fun _ _ hr => hr)) fun blocked => ?_
  refine .bind (hstep (by decide) (enter_blames rfl)) fun _ => ?_
  refine .bind (hstep (by decide) (runSuites_blames passes blocked)) fun _ => ?_
  exact hstep (by decide) (enter_blames rfl)

/-! ### The report -/

section Report

variable {system : σ} {memory : β} {passes : Nat} {P : Run σ β → Prop}
  {E : Breakdown → Run σ β → Prop}

/-- What holds of a run that has been carried out holds of it when it ends with a report, and the
report tells its state. -/
theorem startWithin_reports
    (hcarry : Ends (· = begun s system memory) (carryOut s passes) (fun _ => P) E)
    (hP : Robust id (fun _ => False) P) :
    Ends (· = .fresh s.plan system memory) (startWithin s passes)
      (fun report r => P r ∧ report.history = r.machine.history ∧ SumsUp r report.summary)
      fun _ _ => True := by
  refine .bind (Q := fun summary r => P r ∧ SumsUp r summary)
    (.bind (Q := fun _ r => r = begun s system memory) (by rintro _ rfl; rfl) fun started =>
      .bind (.tryCatch hcarry fun cause => ?_) fun _ => ?_) fun summary => ?_
  · exact .bind (Q := fun _ _ => True) (.modifyGet fun _ _ => trivial) fun _ =>
      .throw fun _ _ => trivial
  · exact .of_eq fun r hr => .lift ((sumUp_spec started r).weaken fun summary r' h =>
      ⟨hP r r' hr h.1, h.2⟩)
  · refine .of_eq fun r hr => .bind (.lift (finish_spec r hr.2)) fun report => ?_
    have hrobust : Robust id (fun _ => False) fun r' : Run σ β => Adds id (fun _ => False) r r' ∧
        report.history = r.machine.history ∧ SumsUp r report.summary :=
      fun r₁ r₂ h hadds => ⟨h.1.trans hadds, h.2⟩
    refine .bind (onLab_keeps' hrobust _) fun _ => .pure fun r' h => ?_
    obtain ⟨hadds, hhistory, hsummary⟩ := h
    exact ⟨hP r r' hr.1 hadds, hhistory.trans (congrArg _ hadds.machine.symm), hsummary.keeps hadds⟩

/-- The phases of a run have had an outcome, the run was closed accordingly, and what stopped it is
blamed on the phase it was in. -/
def Attributed (s : Setup σ β) (system : σ) (memory : β) (r : Run σ β) : Prop :=
  ∃ passes outcome r₀, Executes s passes system memory outcome r₀ ∧
    (∀ stop, outcome = .error stop → BlamedBeforeEnd stop r₀) ∧ Carries r₀ outcome r

theorem Attributed.robust :
    Robust id (fun _ => False) (Attributed s system memory : Run σ β → Prop) := by
  rintro r r' ⟨passes, outcome, r₀, hrun, hblamed, hcarries⟩ hadds
  exact ⟨passes, outcome, r₀, hrun, hblamed, Carries.robust r r' hcarries hadds⟩

theorem carryOut_attributed (passes : Nat) :
    Ends (· = begun s system memory) (carryOut s passes) (fun _ => Attributed s system memory)
      fun _ _ => True := by
  have hspec := execute_blames (s := s) passes
  have hbegun : InPhase .idle (begun s system memory) := (begun_begun s system memory).machine
  refine (carryOut_closes (fun r hrun => hrun.ok hspec hbegun) fun o r hrun => ?_).weaken
    (fun _ r' h => ?_) fun _ _ _ => trivial
  · obtain ⟨p, hp, hblamed⟩ := hrun.error hspec hbegun
    exact ⟨p, (hblamed o rfl).1, Nat.le_trans hp (by decide)⟩
  · obtain ⟨outcome, r, hrun, hcarries⟩ := h
    refine ⟨passes, outcome, r, hrun, fun stop hstop => ?_, hcarries⟩
    subst hstop
    exact hrun.error hspec hbegun

variable {report : RunReport} {final : Run σ β}

/-- A run that ends with `report` has gone along the whole `Phase.course`, or along `front` up to a
phase `p` before the collection of the results, and has failed there.  In the second case
`failedFrom` is `p`, and the last outcomes are `o`, which is fatal, belongs to `p` and is the error
that stopped `execute`, and that of stopping the devices. -/
theorem Finishes.attributed (h : Finishes s system memory report final) :
    (report.history = Phase.course ∧ report.summary.failedFrom = none ∧
      report.summary.finalState = .done) ∨
    ∃ p front before o r, p.rank ≤ Phase.suitesRunning.rank ∧
      front <+: Phase.course ∧ front.getLast? = some p ∧ report.history = front ++ [Phase.failed] ∧
      report.summary.failedFrom = some p ∧ report.summary.finalState = .failed ∧
      (∃ passes, Executes s passes system memory (.error (.phase o)) r) ∧
      o.phase = p ∧ o.severity = .fatal ∧
      report.summary.phases = before ++ [o, stoppedOutcome r] := by
  obtain ⟨passes, hrun⟩ := h
  have hspec := startWithin_reports (carryOut_attributed passes) Attributed.robust
    (.fresh s.plan system memory) rfl
  change StateT.run (startWithin s passes).run (.fresh s.plan system memory) = _ at hrun
  rw [hrun] at hspec
  obtain ⟨⟨passes', outcome, r, hexec, hblamed, hcarries⟩, hhistory, hsummary⟩ := hspec
  rw [hhistory, hsummary.failedFrom, hsummary.finalState, hsummary.phases]
  cases hcarries with
  | collected h =>
      rw [h.machine]
      exact .inl ⟨rfl, rfl, rfl⟩
  | @failed o q _ hmachine h =>
      obtain ⟨p, hp, hat⟩ := hblamed _ rfl
      obtain ⟨hreached, hphase, hfatal⟩ := hat o rfl
      obtain rfl : q = p := congrArg Lifecycle.phase (hmachine.symm.trans hreached)
      obtain ⟨hfront, hlast⟩ := Lifecycle.upTo_history (Nat.le_trans hp (by decide))
      rw [h.machine, h.phases]
      exact .inr ⟨q, _, r.phases, o, r, hp, hfront, hlast, rfl, rfl, rfl, ⟨passes', hexec⟩, hphase,
        hfatal, rfl⟩

/-- The ports of the only device of the small lab can never be redirected. -/
theorem attributed_of_dead_ports : ∃ report final,
    Finishes (Sample.setup Sample.planned) {} (FaultScript.inject {} .redirect { message := "KO" })
      report final ∧ report.summary.failedFrom = some .devicesStarting ∧
    ((report.history = Phase.course ∧ report.summary.failedFrom = none ∧
      report.summary.finalState = .done) ∨
    ∃ p front before o r, p.rank ≤ Phase.suitesRunning.rank ∧
      front <+: Phase.course ∧ front.getLast? = some p ∧ report.history = front ++ [Phase.failed] ∧
      report.summary.failedFrom = some p ∧ report.summary.finalState = .failed ∧
      (∃ passes, Executes (Sample.setup Sample.planned) passes {}
        (FaultScript.inject {} .redirect { message := "KO" }) (.error (.phase o)) r) ∧
      o.phase = p ∧ o.severity = .fatal ∧
      report.summary.phases = before ++ [o, stoppedOutcome r]) := by
  obtain ⟨report, final, h, hfrom⟩ := Finishes.of_run (Sample.setup Sample.planned) {}
    (FaultScript.inject {} .redirect { message := "KO" })
    (fun report _ => report.summary.failedFrom == some .devicesStarting) 3 (by decide +kernel)
  exact ⟨report, final, h, by simpa using hfrom, h.attributed⟩

end Report

end Run

end DeviceLab
