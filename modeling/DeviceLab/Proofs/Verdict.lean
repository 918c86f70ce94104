import DeviceLab.Proofs.Summing

/-! # No false green

The exit code of a run is zero exactly when nothing went wrong: the run has gone through all of its
phases, every package that was to be installed has been installed, and every selected suite has a
record of success, once.

* `RunSummary.verdictOf_eq_success`: what the verdict of a summary says about each of its parts.
* `Concluded.verdict_eq_success`: the same for a run at its end.
* `Finishes.exitCode_eq_zero_iff`: the statement for every run that ends with a report. -/

namespace DeviceLab

/-! ### Verdicts -/

theorem Severity.exitCode_eq_zero {v : Severity} : v.ciStatus.exitCode = 0 ↔ v = .success := by
  cases v <;> decide

theorem RunSummary.verdictOf_eq_success {phases : List PhaseOutcome} {suites : List SuiteSummary}
    {failedFrom : Option Phase} :
    verdictOf phases suites failedFrom = .success ↔ failedFrom = none ∧
      (∀ v ∈ phases.map PhaseOutcome.severity, v = .success) ∧
      ∀ x ∈ suites, x.verdict = .success := by
  have hworst : Severity.aggregate (phases.map (·.severity) ++ suites.map (·.verdict)) = .success ↔
      (∀ v ∈ phases.map PhaseOutcome.severity, v = .success) ∧
        ∀ x ∈ suites, x.verdict = .success := by
    rw [Severity.aggregate_eq_success, List.forall_mem_append, List.forall_mem_map (l := suites)]
  unfold verdictOf
  cases failedFrom with
  | none => simpa using hworst
  | some p => simp [Severity.join_eq_success]

/-! ### The verdict of a run -/

/-- A record of success, without any kind of failure. -/
def SuiteSummary.Passed (x : SuiteSummary) : Prop :=
  x.status = .classified ∧ x.verdict = .success ∧ x.failureKind = none

namespace Run

variable {σ β : Type} {s : Setup σ β} {system : σ} {memory : β} {report : RunReport}
  {final r : Run σ β} {c : Config}

/-- A record whose verdict is success is a record of success. -/
theorem AllRecorded.passed_iff (h : AllRecorded c r) :
    (∀ x ∈ r.results, x.verdict = .success) ↔ ∀ x ∈ r.results, x.Passed := by
  constructor
  · intro hverdicts x hx
    have hkind := (h.closed x hx).failed (hverdicts x hx)
    exact ⟨((h.closed x hx).endedWell hkind).1, hverdicts x hx, hkind⟩
  · exact fun hpassed x hx => (hpassed x hx).2.1

/-- At the end of a run, the worst verdict of all is success exactly when the run has not failed,
all installations have succeeded, and there is a record of success for each selected suite. -/
theorem Concluded.verdict_eq_success (h : Concluded c r) :
    RunSummary.verdictOf r.phases r.results r.machine.failedFrom = .success ↔
      r.machine.phase = .done ∧ r.machine.failedFrom = none ∧ AllInstalled r.calls ∧
        (r.results.map SuiteSummary.suite).Perm c.selected ∧ ∀ x ∈ r.results, x.Passed := by
  rw [RunSummary.verdictOf_eq_success]
  cases h with
  | done machine verdict phases installed accounts =>
      have hnames : (r.results.map SuiteSummary.suite).Perm c.selected := accounts.names
      have hphases : (∀ v ∈ [Severity.success, verdict, .success], v = .success) ↔
          verdict = .success := by
        simp
      rw [machine, phases, hphases, installed, accounts.passed_iff]
      exact ⟨fun ⟨hfailed, hinstalled, hpassed⟩ => ⟨rfl, hfailed, hinstalled, hnames, hpassed⟩,
        fun ⟨_, hfailed, hinstalled, _, hpassed⟩ => ⟨hfailed, hinstalled, hpassed⟩⟩
  | failed p machine accounts =>
      rw [machine]
      exact iff_of_false (fun h => nomatch h.1) fun h => nomatch h.2.1

/-- In a run that has not failed, the last attempt of a suite with a record of success has ended
well. -/
theorem Concluded.endedWell (h : Concluded c r) (hfailed : r.machine.failedFrom = none)
    (hpassed : ∀ x ∈ r.results, x.Passed) :
    ∀ x ∈ r.results, ∃ judgement, x.classification = some judgement ∧
      EndedWell c x.suite x.attempts judgement r.moves.toList := by
  intro x hx
  cases h with
  | done machine verdict phases installed accounts =>
      exact ((accounts.closed x hx).endedWell (hpassed x hx).2.2).2
  | failed p machine accounts =>
      rw [machine] at hfailed
      cases hfailed

/-- A run of a valid configuration that ends with `report` has exit code zero if and only if it has
gone through all phases, every installation that was asked for succeeded, and the records are one
of success for each selected suite.  The last attempt of each suite has then `EndedWell`: of
itself, with output that was recognised and asked for no other attempt. -/
theorem Finishes.exitCode_eq_zero_iff (hv : s.plan.config.validate = .ok ())
    (h : Finishes s system memory report final) :
    (report.summary.exitCode = 0 ↔
      report.summary.finalState = .done ∧ report.summary.failedFrom = none ∧
      (∀ c ∈ final.calls, c.kind = .install → c.result = .done) ∧
      (report.summary.suites.map SuiteSummary.suite).Perm s.plan.config.selected ∧
      ∀ x ∈ report.summary.suites,
        x.status = .classified ∧ x.verdict = .success ∧ x.failureKind = none) ∧
    (report.summary.exitCode = 0 → ∀ x ∈ report.summary.suites,
      ∃ judgement, x.classification = some judgement ∧
        EndedWell s.plan.config x.suite x.attempts judgement final.moves.toList) := by
  have hfinished := h.finished (P := fun _ => True) s.backend.keeps_nothing
    (Config.validate_suites hv) fun _ => trivial
  have hsums := hfinished.summary
  have hpassed := hsums.forall_suites (P := SuiteSummary.Passed) fun _ => Iff.rfl
  have hiff : report.summary.exitCode = 0 ↔ report.summary.finalState = .done ∧
      report.summary.failedFrom = none ∧ AllInstalled final.calls ∧
      (report.summary.suites.map SuiteSummary.suite).Perm s.plan.config.selected ∧
      ∀ x ∈ report.summary.suites, x.Passed := by
    rw [hsums.exitCode, Int.natCast_eq_zero, Severity.exitCode_eq_zero,
      hfinished.concluded.verdict_eq_success, hsums.finalState, hsums.failedFrom, hsums.names,
      hpassed]
  refine ⟨hiff, fun hzero => ?_⟩
  obtain ⟨-, hfailed, -, -, hall⟩ := hiff.1 hzero
  rw [hsums.failedFrom] at hfailed
  exact (hsums.forall_suites fun _ => Iff.rfl).2
    (hfinished.concluded.endedWell hfailed (hpassed.1 hall))

/-- In the small lab every suite passes. -/
theorem exitCode_eq_zero_of_pass : ∃ report final,
    Finishes (Sample.setup Sample.planned) {} {} report final ∧ report.summary.exitCode = 0 ∧
    (report.summary.exitCode = 0 ↔
      report.summary.finalState = .done ∧ report.summary.failedFrom = none ∧
      (∀ c ∈ final.calls, c.kind = .install → c.result = .done) ∧
      (report.summary.suites.map SuiteSummary.suite).Perm
        (Sample.setup Sample.planned).plan.config.selected ∧
      ∀ x ∈ report.summary.suites,
        x.status = .classified ∧ x.verdict = .success ∧ x.failureKind = none) ∧
    (report.summary.exitCode = 0 → ∀ x ∈ report.summary.suites,
      ∃ judgement, x.classification = some judgement ∧
        EndedWell (Sample.setup Sample.planned).plan.config x.suite x.attempts judgement
          final.moves.toList) := by
  obtain ⟨report, final, h, hzero⟩ := Finishes.of_run (Sample.setup Sample.planned) {} {}
    (fun report _ => report.summary.exitCode == 0) 3 (by decide +kernel)
  exact ⟨report, final, h, by simpa using hzero,
    h.exitCode_eq_zero_iff (Sample.setup_valid Sample.planned)⟩

end Run

end DeviceLab

/-! ## The records of the suites

`Finishes.suites_accounted` says what the summary of a run tells about its suites once the run has
come to them: which suites have a record, and what the record of a suite has to do with the attempts
that were made of it. -/

namespace DeviceLab

namespace Run

variable {σ β κ : Type} {s : Setup σ β} {system : σ} {memory : β} {report : RunReport}
  {final r : Run σ β} {c : Config} {kept : Device → κ} {P : Device → Prop}

/-- A run that has come to its suites has closed their accounts. -/
theorem Concluded.accounted (h : Concluded c r)
    (hentered : Phase.suitesRunning ∈ r.machine.history) : Accounted c .suitesRunning r := by
  cases h with
  | done machine verdict phases installed accounts => exact accounts.accounted
  | failed p machine accounts =>
      rw [machine, Lifecycle.mem_history_failedIn (by decide)] at hentered
      obtain ⟨count, refused, hledger, hreach⟩ := accounts
      exact ⟨count, refused, hledger, fun _ => hreach hentered⟩

/-- All selected suites have a record, or those before one whose first attempt could not be
launched. -/
theorem Accounted.names (h : Accounted c .suitesRunning r) :
    ((∀ name cause, .refused name 1 (.launch cause) ∉ r.moves.toList) ∧
      (r.results.map SuiteSummary.suite).Perm c.selected) ∨
    ∃ k name cause, c.selected[k]? = some name ∧
      .refused name 1 (.launch cause) ∈ r.moves.toList ∧
      (r.results.map SuiteSummary.suite).Perm (c.selected.take k) := by
  obtain ⟨count, refused, hledger, hreach⟩ := h
  rcases hreach (Nat.le_refl _) with ⟨rfl, rfl⟩ | ⟨name, cause, hname, hrefused⟩
  · refine .inl ⟨fun name cause hmem => ?_, AllRecorded.names hledger⟩
    exact nomatch (hledger.refused name cause).1 hmem
  · exact .inr ⟨count, name, cause, hname, (hledger.refused name cause).2 hrefused, hledger.names⟩

/-- No suite has two records, and none has one that was not selected. -/
theorem Accounted.names_selected (h : Accounted c .suitesRunning r) (hnodup : c.selected.Nodup) :
    (r.results.map SuiteSummary.suite).Nodup ∧
      ∀ name ∈ r.results.map SuiteSummary.suite, name ∈ c.selected := by
  rcases h.names with ⟨-, hperm⟩ | ⟨k, -, -, -, -, hperm⟩
  · exact ⟨hperm.nodup_iff.2 hnodup, fun name hname => hperm.subset hname⟩
  · exact ⟨hperm.nodup_iff.2 (hnodup.sublist (List.take_sublist k _)),
      fun name hname => List.mem_of_mem_take (hperm.subset hname)⟩

/-- What a record says about the attempts of its suite.  Unlike `Closed` it does not say what the
last attempt was like. -/
def Faithful (c : Config) (moves : List Move) (x : SuiteSummary) : Prop :=
  x.attempts = launches x.suite moves ∧ (x.attempts = 0 ↔ x.status = .blocked) ∧
    x.attempts ≤ c.runLimit x.suite ∧
    (x.failureKind = some .rerunExhausted ↔ Exhausted c x.suite moves)

theorem Accounted.faithful (h : Accounted c .suitesRunning r) :
    ∀ x ∈ r.results, Faithful c r.moves.toList x := by
  obtain ⟨count, refused, hledger, -⟩ := h
  intro x hx
  have hclosed := hledger.closed x hx
  exact ⟨hclosed.attempts, hclosed.blocked, hclosed.le, hclosed.exhausted⟩

/-- In a run of a valid configuration that has come to its suites, the records of the summary are
faithful. -/
theorem Finishes.faithful (hv : s.plan.config.validate = .ok ())
    (h : Finishes s system memory report final) (hentered : Phase.suitesRunning ∈ report.history) :
    ∀ x ∈ report.summary.suites, Faithful s.plan.config final.moves.toList x := by
  have hfinished := h.finished (P := fun _ => True) s.backend.keeps_nothing
    (Config.validate_suites hv) fun _ => trivial
  rw [hfinished.history] at hentered
  exact (hfinished.summary.forall_suites fun _ => Iff.rfl).2
    (hfinished.concluded.accounted hentered).faithful

/-- In a run of a valid configuration that has come to its suites and ends with `report`:

* no suite has two records, and only selected suites have one;
* every selected suite has one, unless the first attempt of a suite could not be launched; then those
  before it have one;
* `attempts` of a record is the number of `launches` of its suite, zero exactly if the suite was
  blocked, and never more than `runLimit`;
* `failureKind` is `rerunExhausted` exactly if the suite is `Exhausted`: the last attempt that there
  may be asked for another one and had not been ended for passing a limit. -/
theorem Finishes.suites_accounted (hv : s.plan.config.validate = .ok ())
    (h : Finishes s system memory report final)
    (hentered : Phase.suitesRunning ∈ report.history) :
    ((report.summary.suites.map SuiteSummary.suite).Nodup ∧
      ∀ name ∈ report.summary.suites.map SuiteSummary.suite, name ∈ s.plan.config.selected) ∧
    (((∀ name cause, .refused name 1 (.launch cause) ∉ final.moves.toList) ∧
        (report.summary.suites.map SuiteSummary.suite).Perm s.plan.config.selected) ∨
      ∃ k name cause, s.plan.config.selected[k]? = some name ∧
        .refused name 1 (.launch cause) ∈ final.moves.toList ∧
        (report.summary.suites.map SuiteSummary.suite).Perm (s.plan.config.selected.take k)) ∧
    ∀ x ∈ report.summary.suites, x.attempts = launches x.suite final.moves.toList ∧
      (x.attempts = 0 ↔ x.status = .blocked) ∧ x.attempts ≤ s.plan.config.runLimit x.suite ∧
      (x.failureKind = some .rerunExhausted ↔
        Exhausted s.plan.config x.suite final.moves.toList) := by
  have hvalid := Config.validate_suites hv
  have hfinished := h.finished (P := fun _ => True) s.backend.keeps_nothing hvalid fun _ => trivial
  have haccounted := hfinished.concluded.accounted (hfinished.history ▸ hentered)
  rw [hfinished.summary.names]
  exact ⟨haccounted.names_selected hvalid.nodup, haccounted.names, h.faithful hv hentered⟩

/-- In the small lab one suite passes, and the other one asks for more attempts than it may have. -/
theorem suites_accounted_both : ∃ report final,
    Finishes (Sample.setup Sample.planned_both) {} {} report final ∧
    Phase.suitesRunning ∈ report.history ∧
    (report.summary.suites.map fun x => (x.suite, x.attempts, x.failureKind)) =
      [("unit", 1, none), ("again", 2, some .rerunExhausted)] ∧
    ((report.summary.suites.map SuiteSummary.suite).Nodup ∧
      ∀ name ∈ report.summary.suites.map SuiteSummary.suite,
        name ∈ (Sample.setup Sample.planned_both).plan.config.selected) ∧
    (((∀ name cause, .refused name 1 (.launch cause) ∉ final.moves.toList) ∧
        (report.summary.suites.map SuiteSummary.suite).Perm
          (Sample.setup Sample.planned_both).plan.config.selected) ∨
      ∃ k name cause, (Sample.setup Sample.planned_both).plan.config.selected[k]? = some name ∧
        .refused name 1 (.launch cause) ∈ final.moves.toList ∧
        (report.summary.suites.map SuiteSummary.suite).Perm
          ((Sample.setup Sample.planned_both).plan.config.selected.take k)) ∧
    ∀ x ∈ report.summary.suites, x.attempts = launches x.suite final.moves.toList ∧
      (x.attempts = 0 ↔ x.status = .blocked) ∧
      x.attempts ≤ (Sample.setup Sample.planned_both).plan.config.runLimit x.suite ∧
      (x.failureKind = some .rerunExhausted ↔
        Exhausted (Sample.setup Sample.planned_both).plan.config x.suite final.moves.toList) := by
  obtain ⟨report, final, h, hentered, hsuites⟩ := Sample.finishes_both
  exact ⟨report, final, h, hentered, hsuites,
    h.suites_accounted (Sample.setup_valid Sample.planned_both) hentered⟩

end Run

end DeviceLab
