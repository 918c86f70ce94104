import Mathlib.Data.List.Perm.Basic
import DeviceLab.Proofs.Reporting
import DeviceLab.Proofs.Scripts
import DeviceLab.Proofs.Teardown
import DeviceLab.Proofs.Weighing

/-! # Runs that agree

The suites of a run end in an order that nobody can foresee.  Two runs of one plan in which the
attempts come out alike still say the same: their records are the same up to order by
`runSuites_played`, and nothing in a summary depends on the order of the records.

* `RunSummary.Agrees`: two summaries say the same.
* `SumsUp.agrees`: what a summary says does not depend on the order of the records.
* `Run.Opens`: how a run has come to its suites.
* `Finishes.summaries_agree`: two runs by the same script have summaries that say the same. -/

namespace DeviceLab

/-! ### Summaries up to the order of records -/

/-- Two summaries say the same, up to the order of the records and to times and files. -/
structure RunSummary.Agrees (a b : RunSummary) : Prop where
  verdict : a.verdict = b.verdict
  ciStatus : a.ciStatus = b.ciStatus
  exitCode : a.exitCode = b.exitCode
  testsPassed : a.testsPassed = b.testsPassed
  testsFailed : a.testsFailed = b.testsFailed
  suitesBlocked : a.suitesBlocked = b.suitesBlocked
  humanSummary : a.humanSummary = b.humanSummary
  suites : (a.suites.map SuiteSummary.timeless).Perm (b.suites.map SuiteSummary.timeless)

section

variable {xs ys : List SuiteSummary}
  (h : (xs.map SuiteSummary.timeless).Perm (ys.map SuiteSummary.timeless))

include h

theorem map_perm {α : Type} {f : SuiteSummary → α} (hf : f ∘ SuiteSummary.timeless = f) :
    (xs.map f).Perm (ys.map f) := by
  have hmap := h.map f
  rwa [List.map_map, List.map_map, hf] at hmap

theorem length_filter_perm {p : SuiteSummary → Bool} (hp : p ∘ SuiteSummary.timeless = p) :
    (xs.filter p).length = (ys.filter p).length := by
  have hcount := h.countP_eq p
  rwa [List.countP_map, List.countP_map, hp, List.countP_eq_length_filter,
    List.countP_eq_length_filter] at hcount

theorem length_of_perm : xs.length = ys.length := by
  have hlength := h.length_eq
  rwa [List.length_map, List.length_map] at hlength

theorem verdictOf_perm {phases phases' : List PhaseOutcome}
    (hphases : phases.map PhaseOutcome.severity = phases'.map PhaseOutcome.severity)
    (failedFrom : Option Phase) : RunSummary.verdictOf phases xs failedFrom =
      RunSummary.verdictOf phases' ys failedFrom := by
  have hverdicts : (xs.map SuiteSummary.verdict).Perm (ys.map SuiteSummary.verdict) :=
    map_perm h rfl
  have hworst := Severity.aggregate_perm (hverdicts.append_left (phases.map PhaseOutcome.severity))
  rw [RunSummary.verdictOf, RunSummary.verdictOf, ← hphases, hworst]

theorem wordsFor_perm (status : CiStatus) (failedFrom : Option Phase) :
    RunSummary.wordsFor status xs failedFrom = RunSummary.wordsFor status ys failedFrom := by
  unfold RunSummary.wordsFor
  rw [length_of_perm h, length_filter_perm h rfl]

end

namespace Run

variable {σ β σ' β' : Type}

theorem SumsUp.timeless {r : Run σ β} {summary : RunSummary} (h : SumsUp r summary) :
    summary.suites.map SuiteSummary.timeless = r.results.map SuiteSummary.timeless := by
  have hbare : SuiteSummary.timeless ∘ SuiteSummary.bare = SuiteSummary.timeless := rfl
  rw [← hbare, ← List.map_map, h.suites, List.map_map]

/-- The summaries of two states say the same if the states have the same severities of phases and,
up to order, the same records. -/
theorem SumsUp.agrees {r : Run σ β} {r' : Run σ' β'} {a b : RunSummary} (ha : SumsUp r a)
    (hb : SumsUp r' b) (hfailed : r.machine.failedFrom = r'.machine.failedFrom)
    (hphases : r.phases.map PhaseOutcome.severity = r'.phases.map PhaseOutcome.severity)
    (hresults : (r.results.map SuiteSummary.timeless).Perm
      (r'.results.map SuiteSummary.timeless)) : a.Agrees b := by
  have hverdict : a.verdict = b.verdict := by
    rw [ha.verdict, hb.verdict, hfailed, verdictOf_perm hresults hphases]
  have hstatus : a.ciStatus = b.ciStatus := by rw [ha.ciStatus, hb.ciStatus, hverdict]
  refine ⟨hverdict, hstatus, ?_, ?_, ?_, ?_, ?_, ?_⟩
  · rw [ha.exitCode, hb.exitCode, ← ha.verdict, ← hb.verdict, hverdict]
  · rw [ha.testsPassed, hb.testsPassed, RunSummary.total_perm (map_perm hresults rfl)]
  · rw [ha.testsFailed, hb.testsFailed, RunSummary.total_perm (map_perm hresults rfl)]
  · rw [ha.suitesBlocked, hb.suitesBlocked, length_filter_perm hresults rfl]
  · rw [ha.humanSummary, hb.humanSummary, hstatus, hfailed, wordsFor_perm hresults]
  · rw [ha.timeless, hb.timeless]
    exact hresults

end Run

/-! ### How a run comes to its suites -/

/-- What a run has come to, apart from the lab, the memory of the backend and the moves. -/
structure Outline where
  machine : Lifecycle
  devices : List String
  phases : List PhaseOutcome
  results : List SuiteSummary
  deriving DecidableEq

namespace Run

variable {σ β σ' β' : Type} {s : Setup σ β} {s' : Setup σ' β'} {r : Run σ β} {r' : Run σ' β'}
  {system : σ} {memory : β} {system' : σ'} {memory' : β'} {script : Script} {o : Outline}
  {opening : Except Stop (List (Nat × String))} {blocked : List (Nat × String)}

/-- What a run has come to. -/
def outline (r : Run σ β) : Outline := ⟨r.machine, r.devices.map Device.name, r.phases, r.results⟩

/-- From a system and what a backend remembers, the phases before the suites have an outcome, and
the run has come to so much. -/
def Opens (s : Setup σ β) (system : σ) (memory : β) (opening : Except Stop (List (Nat × String)))
    (o : Outline) : Prop :=
  ∃ r, (untilSuites s).run.run (begun s system memory) = (opening, r) ∧ r.outline = o

/-- What is given when the suites of a run are taken up. -/
def given (s : Setup σ β) (o : Outline) (blocked : List (Nat × String)) (script : Script) : Given :=
  ⟨s.plan, o.devices, blocked, script⟩

/-- How a run comes to its suites, as far as it can be compared with another run. -/
def openingOf (s : Setup σ β) (system : σ) (memory : β) :
    Except Stop (List (Nat × String)) × Outline :=
  let ending := (untilSuites s).run.run (begun s system memory)
  (ending.1, ending.2.outline)

theorem opens_iff : Opens s system memory opening o ↔ openingOf s system memory = (opening, o) := by
  constructor
  · rintro ⟨r, hrun, rfl⟩
    rw [openingOf, hrun]
  · intro h
    obtain ⟨rfl, rfl⟩ := Prod.mk.inj h
    exact ⟨_, rfl, rfl⟩

/-- A run that is stopped before its suites. -/
theorem Opens.stopped {stop : Stop} {passes : Nat} {outcome : Except Stop Unit}
    (h : Opens s system memory (.error stop) o) (hrun : Executes s passes system memory outcome r) :
    outcome = .error stop ∧ r.outline = o := by
  obtain ⟨r₀, hopen, houtline⟩ := h
  have hspec : Ends (· = begun s system memory) (execute s passes) (fun _ _ => False)
      fun stop' r' => stop' = stop ∧ r' = r₀ := by
    rw [execute_eq]
    refine .bind (Q := fun _ _ => False) ?_ fun _ => .absurd
    rintro _ rfl
    rw [hopen]
    exact ⟨rfl, rfl⟩
  cases outcome with
  | ok _ => exact (hrun.ok (Q := fun _ => False) hspec rfl).elim
  | error stop' =>
      obtain ⟨rfl, rfl⟩ := hrun.error (Q := fun _ => False) hspec rfl
      exact ⟨rfl, houtline⟩

/-- A run that comes to its suites, up to the end of its phases. -/
theorem Opens.played (hb : s.backend.Keeps Device.name) (hv : s.plan.config.SuitesValid)
    (h : Opens s system memory (.ok blocked) o) (passes : Nat) (script : Script) :
    Ends (· = begun s system memory) (execute s passes)
      (fun _ r => (∀ m ∈ r.moves.toList, script.Plays m) →
        r.phases = o.phases ∧ (given s o blocked script).Comes r.results (.ok ()))
      fun stop r => ∀ outcome, stop = .phase outcome →
        (∀ m ∈ r.moves.toList, script.Plays m) →
          Setting (given s o blocked script) o.phases r ∧
            (given s o blocked script).Comes r.results (.error stop) := by
  obtain ⟨r₀, hopen, rfl⟩ := h
  have hstart := untilSuites_spec (s := s) hb _ (begun_begun s system memory)
  rw [hopen] at hstart
  obtain ⟨hstanding, -, hrecords⟩ := hstart
  have hsetting : Setting (given s r₀.outline blocked script) r₀.outline.phases r₀ :=
    ⟨hstanding.machine, rfl, rfl⟩
  have hledger := ledger_empty (c := s.plan.config)
    (fun m hm => (hstanding.moves m hm).not_in (by decide)) hrecords
  rw [execute_eq]
  refine .bind (Q := fun blocked' r => blocked' = blocked ∧ r = r₀) ?_ fun blocked' =>
    .of_eq fun r hr => ?_
  · rintro _ rfl
    rw [hopen]
    exact ⟨rfl, rfl⟩
  obtain ⟨rfl, rfl⟩ := hr
  refine .bind ((runSuites_played (g := given s r.outline blocked' script) rfl hb hv passes).conseq ?_
    (fun _ _ h => h) fun _ _ h => h) fun _ => .of_eq fun r₁ h₁ => ?_
  · rintro _ rfl
    exact ⟨hsetting, hrecords.1, hledger⟩
  obtain ⟨hend, hcomes⟩ := h₁
  refine (enter_looked .resultsCollected r₁).weaken (fun _ r₂ h => ?_) fun stop r₂ h => ?_
  · obtain ⟨r', l, hlook, rfl⟩ := h
    obtain ⟨k, hmoves⟩ := hlook.moves
    intro hplays
    refine ⟨hlook.adds.phases.trans hend.phases, ?_⟩
    dsimp only
    rw [hlook.adds.results]
    exact hcomes fun m hm => hplays m (by simp [hmoves, hm])
  · -- the phase can be entered, and the look has not seen the wish
    obtain ⟨-, cancelled, hlook, hrefused⟩ := h
    obtain ⟨k, hmoves⟩ := hlook.moves
    intro _ _ hplays
    have hfalse : cancelled = false := hplays (.looked cancelled) (by simp [hmoves])
    obtain ⟨e, he⟩ := hrefused hfalse
    rw [hend.machine, Lifecycle.transition_upTo rfl] at he
    cases he

/-- A run by the script whose phases do not break down. -/
theorem Opens.comes (hb : s.backend.Keeps Device.name) (hv : s.plan.config.SuitesValid)
    (h : Opens s system memory (.ok blocked) o) {passes : Nat} {outcome : Except Stop Unit}
    (hrun : Executes s passes system memory outcome r)
    (hends : ∀ cause, outcome ≠ .error (.broken cause))
    (hplays : ∀ m ∈ r.moves.toList, script.Plays m) :
    (given s o blocked script).Comes r.results outcome ∧ r.phases = o.phases ∧
      ∀ stop, outcome = .error stop → r.machine = .upTo .suitesRunning := by
  have hplayed := h.played hb hv passes script
  cases outcome with
  | ok _ =>
      obtain ⟨hphases, hcomes⟩ := hrun.ok hplayed rfl hplays
      exact ⟨hcomes, hphases, fun _ h => nomatch h⟩
  | error stop =>
      cases stop with
      | broken cause => exact absurd rfl (hends cause)
      | phase outcome =>
          obtain ⟨hsetting, hcomes⟩ := hrun.error hplayed rfl outcome rfl hplays
          exact ⟨hcomes, hsetting.phases, fun _ _ => hsetting.machine⟩

/-! ### Two runs -/

/-- The phases of two runs have come to the same. -/
structure Alike (outcome outcome' : Except Stop Unit) (r : Run σ β) (r' : Run σ' β') : Prop where
  same : outcome = outcome'
  machine : ∀ stop, outcome = .error stop → r.machine = r'.machine
  phases : r.phases = r'.phases
  results : (r.results.map SuiteSummary.timeless).Perm (r'.results.map SuiteSummary.timeless)

/-- Two runs that come to their suites alike and have the same script come to the same. -/
theorem Opens.alike (hplan : s'.plan = s.plan) (hv : s.plan.config.SuitesValid)
    (hb : s.backend.Keeps Device.name) (hb' : s'.backend.Keeps Device.name)
    (hopen : Opens s system memory opening o) (hopen' : Opens s' system' memory' opening o)
    {passes passes' : Nat} {outcome outcome' : Except Stop Unit}
    (hrun : Executes s passes system memory outcome r)
    (hrun' : Executes s' passes' system' memory' outcome' r')
    (hends : ∀ cause, outcome ≠ .error (.broken cause))
    (hends' : ∀ cause, outcome' ≠ .error (.broken cause))
    (hplays : ∀ m ∈ r.moves.toList, script.Plays m)
    (hplays' : ∀ m ∈ r'.moves.toList, script.Plays m) : Alike outcome outcome' r r' := by
  cases opening with
  | error stop =>
      obtain ⟨rfl, rfl⟩ := hopen.stopped hrun
      obtain ⟨rfl, houtline⟩ := hopen'.stopped hrun'
      obtain ⟨hmachine, -, hphases, hresults⟩ := Outline.mk.inj houtline
      exact ⟨rfl, fun _ _ => hmachine.symm, hphases.symm, by rw [hresults]⟩
  | ok blocked =>
      obtain ⟨hcomes, hphases, hmachine⟩ := hopen.comes hb hv hrun hends hplays
      obtain ⟨hcomes', hphases', hmachine'⟩ :=
        hopen'.comes hb' (hplan ▸ hv) hrun' hends' hplays'
      have hgiven : given s' o blocked script = given s o blocked script := by
        rw [given, given, hplan]
      rw [hgiven] at hcomes'
      obtain ⟨rfl, hperm⟩ := hcomes.unique hcomes'
      exact ⟨rfl, fun stop h => (hmachine stop h).trans (hmachine' stop h).symm,
        hphases.trans hphases'.symm, hperm⟩

/-- Where a run stands at its end and which outcomes are written down for it, by the outcome of its
phases. -/
inductive Lands (r : Run σ β) : Except Stop Unit → Lifecycle → List PhaseOutcome → Prop where
  | collected : Lands r (.ok ()) (.upTo .done) []
  | failed {outcome : PhaseOutcome} {p : Phase} (hmachine : r.machine = .upTo p) :
      Lands r (.error (.phase outcome)) (.failedIn p) [outcome]

/-- A run that ends with a report has not broken down. -/
theorem Concludes.lands {passes : Nat} {final : Run σ β} {report : RunReport}
    (h : Concludes s passes system memory (.ok report) final) :
    ∃ outcome r l outcomes before after, Executes s passes system memory outcome r ∧
      Lands r outcome l outcomes ∧ Reports l outcomes before after r final report := by
  cases h with
  | collected hrun h => exact ⟨_, _, _, _, _, _, hrun, .collected, h⟩
  | failed hrun hmachine h => exact ⟨_, _, _, _, _, _, hrun, .failed hmachine, h⟩

theorem Lands.ne_broken {outcome : Except Stop Unit} {l : Lifecycle} {outcomes : List PhaseOutcome}
    (h : Lands r outcome l outcomes) (cause : Breakdown) : outcome ≠ .error (.broken cause) := by
  rintro rfl
  cases h

/-- Two runs that have come to the same stand at the same place at their end. -/
theorem Lands.unique {outcome outcome' : Except Stop Unit} {l l' : Lifecycle}
    {outcomes outcomes' : List PhaseOutcome} (h : Lands r outcome l outcomes)
    (h' : Lands r' outcome' l' outcomes') (halike : Alike outcome outcome' r r') :
    l = l' ∧ outcomes = outcomes' := by
  obtain ⟨rfl, hmachine, -, -⟩ := halike
  cases h with
  | collected =>
      cases h'
      exact ⟨rfl, rfl⟩
  | failed hfailed =>
      cases h' with
      | failed hfailed' =>
          have hphase := congrArg Lifecycle.phase (hmachine _ rfl)
          rw [hfailed, hfailed'] at hphase
          exact ⟨congrArg Lifecycle.failedIn hphase, rfl⟩

/-- What has been done up to the end of the phases is still known at the end of the run. -/
theorem Reports.mem_moves {l : Lifecycle} {outcomes : List PhaseOutcome} {before after : List Move}
    {final : Run σ β} {report : RunReport} (h : Reports l outcomes before after r final report)
    {m : Move} (hm : m ∈ r.moves.toList) : m ∈ final.moves.toList := by
  obtain ⟨calls, -, hmoves⟩ := h.moves
  rw [hmoves]
  exact List.mem_append_left _ hm

/-- Two runs whose phases have come to the same are summed up alike. -/
theorem Reports.agrees {l : Lifecycle} {outcomes : List PhaseOutcome}
    {before before' after after' : List Move} {final : Run σ β} {final' : Run σ' β'}
    {report report' : RunReport} (h : Reports l outcomes before after r final report)
    (h' : Reports l outcomes before' after' r' final' report') {outcome outcome' : Except Stop Unit}
    (halike : Alike outcome outcome' r r') : report.summary.Agrees report'.summary := by
  refine h.summary.agrees h'.summary ?_ ?_ ?_
  · rw [h.machine, h'.machine]
  · rw [h.phases, h'.phases, halike.phases]
    simp [stoppedOutcome, PhaseOutcome.plain]
  · rw [h.results, h'.results]
    exact halike.results

/-- **The result of a run does not depend on the order in which its suites end.**  Let two runs of
one valid plan come to their suites alike (`Opens`), on whatever systems, and let `script` fix for
both which attempts can be launched, how each exits and what it writes; `script.Plays` every move,
so no attempt is ended for passing a limit or given up, and no look sees a wish to cancel.  Then
their summaries agree (`RunSummary.Agrees`): they have the same verdict, status, exit code, totals
and words, and up to their order the same records apart from times and files, whenever the exits
are seen. -/
theorem Finishes.summaries_agree (hv : s.plan.config.validate = .ok ()) (hplan : s'.plan = s.plan)
    (hb : s.backend.Keeps Device.name) (hb' : s'.backend.Keeps Device.name)
    {report report' : RunReport} {final : Run σ β} {final' : Run σ' β'}
    (h : Finishes s system memory report final) (h' : Finishes s' system' memory' report' final')
    (hopen : Opens s system memory opening o) (hopen' : Opens s' system' memory' opening o)
    (hplays : ∀ m ∈ final.moves.toList, script.Plays m)
    (hplays' : ∀ m ∈ final'.moves.toList, script.Plays m) :
    report.summary.Agrees report'.summary := by
  have hvalid := Config.validate_suites hv
  have hvalid' : s'.plan.config.SuitesValid := hplan ▸ hvalid
  obtain ⟨passes, hrun⟩ := h
  obtain ⟨passes', hrun'⟩ := h'
  have hconcludes := startWithin_concludes hvalid passes system memory _ rfl
  have hconcludes' := startWithin_concludes hvalid' passes' system' memory' _ rfl
  change StateT.run (startWithin s passes).run (.fresh s.plan system memory) = _ at hrun
  change StateT.run (startWithin s' passes').run (.fresh s'.plan system' memory') = _ at hrun'
  rw [hrun] at hconcludes
  rw [hrun'] at hconcludes'
  obtain ⟨_, r, _, _, _, _, hexec, hlands, hreports⟩ := hconcludes.lands
  obtain ⟨_, r', _, _, _, _, hexec', hlands', hreports'⟩ := hconcludes'.lands
  have halike := hopen.alike hplan hvalid hb hb' hopen' hexec hexec' hlands.ne_broken
    hlands'.ne_broken (fun m hm => hplays m (hreports.mem_moves hm))
    fun m hm => hplays' m (hreports'.mem_moves hm)
  obtain ⟨rfl, rfl⟩ := hlands.unique hlands' halike
  exact hreports.agrees hreports' halike

end Run

namespace Sample

open Text

/-- A host on which every suite passes, and the exit of the second process of a suite is not seen at
the first look. -/
def tardy : Host Disk :=
  { host with
    spawn := fun spec capture => modifyGet fun disk =>
      if spec.argv = Scripted.sleeper then (1, disk.write capture (Utf8.encode capture))
      else (disk.next, disk.write capture (Utf8.encode "TEST-PASS"))
    tryWait := fun pid => modifyGet fun disk =>
      if pid = 1 then (none, disk)
      else if pid = 4 ∧ disk.next < 6 then (none, { disk with next := disk.next + 1 })
      else (some (.exited 0), disk) }

/-- The plan with two suites is carried out on that host. -/
def tardySetup : Setup Disk FaultScript :=
  ⟨tardy, Scripted.backend tardy, (setup planned_both).plan⟩

/-- All attempts are launched and pass. -/
def script : Script := ⟨fun _ _ => none, fun _ _ => .exited 0, fun _ _ => "TEST-PASS"⟩

end Sample

/-- In the small lab two suites end in one order or in the other, and the summaries agree. -/
theorem Run.summaries_agree_both : ∃ report report' final final' opening o,
    Finishes (Sample.setup Sample.planned_both) {} {} report final ∧
    Finishes Sample.tardySetup {} {} report' final' ∧
    Opens (Sample.setup Sample.planned_both) {} {} opening o ∧
    Opens Sample.tardySetup {} {} opening o ∧
    (∀ m ∈ final.moves.toList, Sample.script.Plays m) ∧
    (∀ m ∈ final'.moves.toList, Sample.script.Plays m) ∧
    report.summary.suites.map SuiteSummary.suite = ["unit", "again"] ∧
    report'.summary.suites.map SuiteSummary.suite = ["again", "unit"] ∧
    report.summary.Agrees report'.summary := by
  have hsame : openingOf Sample.tardySetup {} {} =
      openingOf (Sample.setup Sample.planned_both) {} {} := by decide +kernel
  obtain ⟨report, final, h, hcheck⟩ := Finishes.of_run (Sample.setup Sample.planned_both) {} {}
    (fun report final => (final.moves.toList.all fun m => decide (Sample.script.Plays m)) &&
      report.summary.suites.map SuiteSummary.suite == ["unit", "again"]) 5 (by decide +kernel)
  obtain ⟨report', final', h', hcheck'⟩ := Finishes.of_run Sample.tardySetup {} {}
    (fun report final => (final.moves.toList.all fun m => decide (Sample.script.Plays m)) &&
      report.summary.suites.map SuiteSummary.suite == ["again", "unit"]) 5 (by decide +kernel)
  simp only [Bool.and_eq_true, List.all_eq_true, decide_eq_true_eq, beq_iff_eq] at hcheck hcheck'
  obtain ⟨⟨opening, o⟩, hopening⟩ : ∃ x, openingOf (Sample.setup Sample.planned_both) {} {} = x :=
    ⟨_, rfl⟩
  have hopens := opens_iff.2 hopening
  have hopens' := opens_iff.2 (hsame.trans hopening)
  refine ⟨report, report', final, final', _, _, h, h', hopens, hopens', hcheck.1, hcheck'.1, hcheck.2,
    hcheck'.2, ?_⟩
  have hplan : Sample.tardySetup.plan = (Sample.setup Sample.planned_both).plan := by
    rw [Sample.tardySetup]
  exact h.summaries_agree (Sample.setup_valid Sample.planned_both) hplan
    (Backend.Supplied.scripted.keeps.map DeviceSlot.name)
    (Backend.Supplied.scripted.keeps.map DeviceSlot.name) h' hopens hopens' hcheck.1 hcheck'.1

end DeviceLab
