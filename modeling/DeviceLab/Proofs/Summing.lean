import DeviceLab.Proofs.SmallLab
import DeviceLab.Proofs.Ending

/-! # Summing up

The summary and the report tell how a run has ended.

* `SumsUp`: what a summary says of the state of a run.
* `Settled`, `Finished`: what is known of a run that is summed up, and of one that ends with a
  report.
* `Sums.settled`, `Finishes.finished`: these hold for every run of a valid configuration. -/

namespace DeviceLab

/-- The record of a suite without the file that keeps the output. -/
def SuiteSummary.bare (x : SuiteSummary) : SuiteSummary := { x with logPath := none }

namespace Run

variable {σ β κ : Type} {s : Setup σ β} {kept : Device → κ} {P : Device → Prop} {r r' : Run σ β}

/-! ### The report -/

/-- The summary tells the state of the run. -/
structure SumsUp (r : Run σ β) (summary : RunSummary) : Prop where
  finalState : summary.finalState = r.machine.phase
  failedFrom : summary.failedFrom = r.machine.failedFrom
  phases : summary.phases = r.phases
  verdict : summary.verdict = RunSummary.verdictOf r.phases r.results r.machine.failedFrom
  ciStatus : summary.ciStatus = summary.verdict.ciStatus
  exitCode : summary.exitCode =
    (RunSummary.verdictOf r.phases r.results r.machine.failedFrom).ciStatus.exitCode
  testsPassed : summary.testsPassed = RunSummary.total (r.results.map SuiteSummary.passed)
  testsFailed : summary.testsFailed = RunSummary.total (r.results.map SuiteSummary.failed)
  suitesBlocked : summary.suitesBlocked = (r.results.filter fun x => x.status == .blocked).length
  humanSummary : summary.humanSummary =
    RunSummary.wordsFor summary.ciStatus r.results r.machine.failedFrom
  suites : summary.suites.map SuiteSummary.bare = r.results.map SuiteSummary.bare
  devices : summary.devices = r.devices.map DeviceSummary.ofDevice

theorem sumsUp_make (r : Run σ β) (durationMs : Nat) (createdAt : Timestamp) :
    SumsUp r (.make r.machine.phase r.machine.failedFrom r.phases r.results
      (r.devices.map DeviceSummary.ofDevice) durationMs createdAt) := by
  constructor <;> rfl

theorem SumsUp.keeps {summary : RunSummary} {p : Move → Prop} (h : SumsUp r summary)
    (hadds : Adds id p r r') : SumsUp r' summary where
  finalState := by rw [hadds.machine, h.finalState]
  failedFrom := by rw [hadds.machine, h.failedFrom]
  phases := by rw [hadds.phases, h.phases]
  verdict := by rw [hadds.machine, hadds.phases, hadds.results, h.verdict]
  ciStatus := h.ciStatus
  exitCode := by rw [hadds.machine, hadds.phases, hadds.results, h.exitCode]
  testsPassed := by rw [hadds.results, h.testsPassed]
  testsFailed := by rw [hadds.results, h.testsFailed]
  suitesBlocked := by rw [hadds.results, h.suitesBlocked]
  humanSummary := by rw [hadds.machine, hadds.results, h.humanSummary]
  suites := by rw [hadds.results, h.suites]
  devices := by rw [hadds.devices_eq, h.devices]

/-- The records in the summary are about the same suites. -/
theorem SumsUp.names {summary : RunSummary} (h : SumsUp r summary) :
    summary.suites.map SuiteSummary.suite = r.results.map SuiteSummary.suite := by
  have hbare : SuiteSummary.suite ∘ SuiteSummary.bare = SuiteSummary.suite := rfl
  rw [← hbare, ← List.map_map, h.suites, List.map_map]

/-- What does not depend on where output is kept holds in the summary as it does in the run. -/
theorem SumsUp.forall_suites {summary : RunSummary} (h : SumsUp r summary)
    {P : SuiteSummary → Prop} (hP : ∀ x, P x.bare ↔ P x) :
    (∀ x ∈ summary.suites, P x) ↔ ∀ x ∈ r.results, P x := by
  have hbare : ∀ l : List SuiteSummary, (∀ x ∈ l, P x) ↔ ∀ x ∈ l.map SuiteSummary.bare, P x := by
    intro l
    simp only [List.forall_mem_map, hP]
  rw [hbare summary.suites, hbare r.results, h.suites]

theorem map_modify_of_eq {α γ : Type} {f : α → γ} {g : α → α} (h : ∀ a, f (g a) = f a)
    (l : List α) (i : Nat) : (l.modify i g).map f = l.map f := by
  apply List.ext_getElem?
  intro j
  rw [List.getElem?_map, List.getElem?_map, List.getElem?_modify]
  cases l[j]? with
  | none => rfl
  | some a =>
      by_cases hij : i = j
      · simp [hij, h]
      · simp [hij]

theorem linkLogs_bare (files : List (ProcessId × String)) (logs : List (Nat × ProcessId))
    (suites : List SuiteSummary) :
    (linkLogs files logs suites).map SuiteSummary.bare = suites.map SuiteSummary.bare := by
  induction logs generalizing suites with
  | nil => rfl
  | cons entry rest ih =>
      obtain ⟨index, id⟩ := entry
      rw [linkLogs, List.foldl_cons, ← linkLogs, ih]
      exact map_modify_of_eq (by intro suite; rfl) suites index

theorem keepEach_keeps {p : Move → Prop} (hI : Robust id p I) (dir : String)
    (ids : List ProcessId) : Leads I (keepEach s dir ids) fun _ => I := by
  induction ids with
  | nil => exact .pure fun _ hr => hr
  | cons id rest ih =>
      refine .bind (Q := fun _ => I) (.get fun _ hr => hr) fun run => ?_
      refine .bind (onLab_keeps hI _) fun file => ?_
      cases file with
      | ok file => exact .bind ih fun _ => .pure fun _ hr => hr
      | error cause => exact ih

theorem preserveAll_spec {p : Move → Prop} (hI : Robust id p I) (suites : List SuiteSummary) :
    Leads I (preserveAll s suites) fun kept r =>
      kept.2.map SuiteSummary.bare = suites.map SuiteSummary.bare ∧ I r := by
  refine .bind (Q := fun _ => I) (.get fun _ hr => hr) fun run => ?_
  refine .bind (keepEach_keeps hI _ _) fun files => ?_
  exact .pure fun r hr => ⟨linkLogs_bare files run.resultLogs suites, hr⟩

theorem keepOutput_spec {p : Move → Prop} (hI : Robust id p I) {summary : RunSummary}
    (h : SumsUp r summary) :
    Leads I (keepOutput s summary) fun kept r' => SumsUp r kept.2 ∧ I r' := by
  refine .ite (fun _ => .pure fun r' hr' => ⟨h, hr'⟩) fun _ => ?_
  refine .bind (preserveAll_spec hI summary.suites) fun kept => .pure fun r' hr' => ⟨?_, hr'.2⟩
  exact { h with suites := hr'.1.trans h.suites }

/-- Summing up changes nothing but the lab, and the summary tells the state of the run. -/
theorem sumUp_spec (started : Instant) (r : Run σ β) :
    Leads (· = r) (sumUp s started) fun summary r' =>
      Adds id (fun _ => False) r r' ∧ SumsUp r' summary := by
  have hrobust : Robust id (fun _ => False) (Adds id (fun _ => False) r) := robust_adds r
  refine .bind (Q := fun run r' => run = r ∧ Adds id (fun _ => False) r r')
    (.get fun r' h => ⟨h, h ▸ .refl r'⟩) fun run => .of_eq fun r' hr' => ?_
  obtain ⟨rfl, hadds⟩ := hr'
  refine .bind (.conseq (onLab_keeps hrobust _) (fun _ h => h ▸ hadds) fun _ _ h => h) fun now => ?_
  refine .bind (onLab_keeps hrobust _) fun createdAt => ?_
  exact .pure fun r'' h => ⟨h, (sumsUp_make run _ _).keeps h⟩

/-- Cleaning up changes nothing but the lab, and the report tells the state of the run. -/
theorem finish_spec {summary : RunSummary} (r : Run σ β) (h : SumsUp r summary) :
    Leads (· = r) (finish s summary) fun report r' => Adds id (fun _ => False) r r' ∧
      report.history = r.machine.history ∧ SumsUp r report.summary := by
  have hrobust : Robust id (fun _ => False) (Adds id (fun _ => False) r) := robust_adds r
  refine .bind (Q := fun run r' => run = r ∧ Adds id (fun _ => False) r r')
    (.get fun r' h => ⟨h, h ▸ .refl r'⟩) fun run => .of_eq fun r' hr' => ?_
  obtain ⟨rfl, hadds⟩ := hr'
  refine .bind ((keepOutput_spec hrobust h).conseq (fun _ h => h ▸ hadds) fun _ _ h => h)
    fun kept => ?_
  have hkept : Robust id (fun _ => False) fun r' : Run σ β =>
      SumsUp run kept.2 ∧ Adds id (fun _ => False) run r' :=
    fun r₁ r₂ h h' => ⟨h.1, hrobust r₁ r₂ h.2 h'⟩
  refine .bind (.bind (.get fun _ h => h) fun _ => .forM fun id _ =>
    .discard (onLab_keeps hkept _)) fun _ => ?_
  refine .bind (onLab_keeps hkept _) fun written => ?_
  split <;> exact .pure fun r' h => ⟨h.2, rfl, h.1⟩

/-- Summing up and cleaning up keep what does not depend on the lab. -/
theorem sumUp_keeps (hI : Robust id (fun _ => False) I) (started : Instant) :
    Leads I (sumUp s started) fun _ => I :=
  .of_eq fun r hr => (sumUp_spec started r).weaken fun _ r' h => hI r r' hr h.1

theorem finish_keeps (hI : Robust id (fun _ => False) I) (summary : RunSummary) :
    Leads I (finish s summary) fun _ => I := by
  refine .bind (Q := fun _ => I) (.get fun _ hr => hr) fun run => ?_
  refine .bind (Q := fun _ => I) (.ite (fun _ => .pure fun _ hr => hr) fun _ => ?_) fun kept => ?_
  · exact .bind ((preserveAll_spec hI summary.suites).weaken fun _ _ h => h.2)
      fun kept => .pure fun _ hr => hr
  refine .bind (.bind (Q := fun _ => I) (.get fun _ hr => hr) fun _ => .forM fun id _ =>
    .discard (onLab_keeps hI _)) fun _ => ?_
  refine .bind (onLab_keeps hI _) fun written => ?_
  split <;> exact .pure fun _ hr => hr

/-- What the run up to the end of its devices leads to is true of the run at its end, however it
ends. -/
theorem startWithin_keeps {passes : Nat} {I' : Run σ β → Prop}
    (hI : Robust id (fun _ => False) I) (hI' : Robust id (fun _ => False) I')
    (hcarry : Ends I (carryOut s passes) (fun _ => I') fun _ => I') :
    Ends I (startWithin s passes) (fun _ => I') fun _ => I' := by
  refine .bind (Q := fun _ => I') ?_ fun summary => .bind (.lift (finish_keeps hI' summary))
    fun report => .bind (onLab_keeps' hI' _) fun _ => .pure fun _ hr => hr
  refine .bind (onLab_keeps' hI _) fun started => ?_
  refine .bind (.tryCatch hcarry fun cause => ?_) fun _ => .lift (sumUp_keeps hI' started)
  exact .bind (onLab_keeps' hI' _) fun _ => .throw fun _ hr => hr

/-! ### The whole run -/

theorem begun_fresh (plan : RunPlan) (system : σ) (memory : β) :
    Begun (.fresh plan system memory : Run σ β) :=
  ⟨rfl, rfl, rfl, rfl, rfl, rfl⟩

theorem Begun.robust : Robust id (fun _ => False) (Begun : Run σ β → Prop) := by
  intro r r' h hadds
  exact ⟨hadds.machine.trans h.machine, hadds.devices_eq.trans h.devices,
    hadds.phases.trans h.phases, hadds.results.trans h.results,
    hadds.resultLogs.trans h.resultLogs, hadds.moves_eq.trans h.moves⟩

theorem Concluded.robust {c : Config} :
    Robust id (fun _ => False) (Concluded c : Run σ β → Prop) := by
  intro r r' h hadds
  have hquiet : Adds id Move.Aside r r' := hadds.mono fun _ h => h.elim
  cases h with
  | done machine verdict phases installed accounts =>
      refine .done (hadds.machine.trans machine) verdict (by rw [hadds.phases, phases]) ?_
        (robust_ledger r r' accounts hquiet)
      rw [calls_of_quiet hadds fun _ h => h, installed]
  | failed p machine accounts =>
      exact .failed p (hadds.machine.trans machine) (Accounted.robust r r' accounts hquiet)

/-- What is known of a run that has been summed up. -/
structure Settled (s : Setup σ β) (kept : Device → κ) (P : Device → Prop) (summary : RunSummary)
    (r : Run σ β) : Prop where
  ended : Ended s kept P r
  concluded : Concluded s.plan.config r
  summary : SumsUp r summary

/-- What is known of a run that ends with a report. -/
structure Finished (s : Setup σ β) (kept : Device → κ) (P : Device → Prop) (report : RunReport)
    (final : Run σ β) : Prop extends Settled s kept P report.summary final where
  history : report.history = final.machine.history

theorem sumUpWithin_spec (hb : s.backend.Keeps kept) (hv : s.plan.config.SuitesValid)
    (hP : ∀ t, P (s.backend.teardown.run t).2.device) (passes : Nat) :
    Ends Begun (sumUpWithin s passes) (Settled s kept P) fun _ _ => True := by
  refine .bind (onLab_keeps' Begun.robust _) fun started => ?_
  refine .bind (.tryCatch (carryOut_spec hb hv hP passes) fun cause => ?_) fun _ => ?_
  · exact .bind (.lift (.modifyGet (Q := fun _ _ => True) fun _ _ => trivial))
      fun _ => .throw fun _ _ => trivial
  refine .of_eq fun r hr => .lift ((sumUp_spec started r).weaken fun summary r' h => ?_)
  exact ⟨Ended.steady.robust r r' hr.1 (h.1.mono fun _ h => h.elim),
    Concluded.robust r r' hr.2 h.1, h.2⟩

theorem startWithin_spec (hb : s.backend.Keeps kept) (hv : s.plan.config.SuitesValid)
    (hP : ∀ t, P (s.backend.teardown.run t).2.device) (passes : Nat) :
    Ends Begun (startWithin s passes) (Finished s kept P) fun _ _ => True := by
  refine .bind (sumUpWithin_spec hb hv hP passes) fun summary => .of_eq fun r hr => ?_
  refine .bind (.lift (finish_spec r hr.summary)) fun report => ?_
  have hrobust : Robust id (fun _ => False) fun r' : Run σ β => Adds id (fun _ => False) r r' ∧
      report.history = r.machine.history ∧ SumsUp r report.summary :=
    fun r₁ r₂ h hadds => ⟨h.1.trans hadds, h.2⟩
  refine .bind (onLab_keeps' hrobust _) fun _ => .pure fun r' h => ?_
  obtain ⟨hadds, hhistory, hsummary⟩ := h
  exact ⟨⟨Ended.steady.robust r r' hr.ended (hadds.mono fun _ h => h.elim),
    Concluded.robust r r' hr.concluded hadds, hsummary.keeps hadds⟩,
    hhistory.trans (congrArg _ hadds.machine.symm)⟩

/-- Every run of a valid configuration that is summed up has torn its devices down and accounted for
its suites, and the summary tells so. -/
theorem Sums.settled {system : σ} {memory : β} {summary : RunSummary} {r : Run σ β}
    (h : Sums s system memory summary r) (hb : s.backend.Keeps kept)
    (hv : s.plan.config.SuitesValid) (hP : ∀ t, P (s.backend.teardown.run t).2.device) :
    Settled s kept P summary r := by
  obtain ⟨passes, hrun⟩ := h
  have hspec := sumUpWithin_spec hb hv hP passes _ (begun_fresh s.plan system memory)
  change StateT.run (sumUpWithin s passes).run (.fresh s.plan system memory) = _ at hrun
  rw [hrun] at hspec
  exact hspec

/-- The same for every run that ends with a report. -/
theorem Finishes.finished {system : σ} {memory : β} {report : RunReport} {final : Run σ β}
    (h : Finishes s system memory report final) (hb : s.backend.Keeps kept)
    (hv : s.plan.config.SuitesValid) (hP : ∀ t, P (s.backend.teardown.run t).2.device) :
    Finished s kept P report final := by
  obtain ⟨passes, hrun⟩ := h
  have hspec := startWithin_spec hb hv hP passes _ (begun_fresh s.plan system memory)
  change StateT.run (startWithin s passes).run (.fresh s.plan system memory) = _ at hrun
  rw [hrun] at hspec
  exact hspec

end Run

end DeviceLab
