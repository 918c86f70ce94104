import DeviceLab.Proofs.Looks
import DeviceLab.Proofs.Summing

/-! # From the phases to the report

What follows the phases of a run depends on nothing but the state in which they end: the run fails
if it was stopped, its devices are torn down, and it is summed up.  So what a report says can be
read off that state.

* `Executes`: the phases of a run have an outcome in a state.
* `Reports`: what is added to that state until there is a report.
* `startWithin_reports`: every run ends as the outcome of its phases says. -/

namespace DeviceLab

namespace Run

variable {σ β : Type} {s : Setup σ β} {r r' final : Run σ β} {l l' : Lifecycle}
  {after : List Move}

/-- The state in which the phases of a run begin. -/
def begun (s : Setup σ β) (system : σ) (memory : β) : Run σ β :=
  ((onLab (Lab.sys s.host.now) : StateM (Run σ β) Instant).run (.fresh s.plan system memory)).2

/-- From a system and what a backend remembers, the phases of a run have an outcome in a state. -/
def Executes (s : Setup σ β) (passes : Nat) (system : σ) (memory : β)
    (outcome : Except Stop Unit) (r : Run σ β) : Prop :=
  (execute s passes).run.run (begun s system memory) = (outcome, r)

/-- The outcome of the phase in which the devices are stopped. -/
def stoppedOutcome (r : Run σ β) : PhaseOutcome :=
  .plain .devicesStopped .success s!"{r.devices.length} device(s) stopped"

/-- A run whose phases have ended in a state is closed and summed up; `before` and `after` are the
moves around the end of its devices. -/
structure Reports (l : Lifecycle) (outcomes : List PhaseOutcome) (before after : List Move)
    (r final : Run σ β) (report : RunReport) : Prop where
  machine : final.machine = l
  phases : final.phases = r.phases ++ (outcomes ++ [stoppedOutcome r])
  results : final.results = r.results
  moves : ∃ calls : List BackendCall, (∀ c ∈ calls, c.kind = .teardown) ∧
    final.moves.toList = r.moves.toList ++ (before ++ (calls.map .called ++ after))
  history : report.history = l.history
  summary : SumsUp final report.summary

theorem begun_begun (s : Setup σ β) (system : σ) (memory : β) : Begun (begun s system memory) :=
  onLab_keeps Begun.robust (Lab.sys s.host.now) _ (begun_fresh s.plan system memory)

/-- The phases of a run have some outcome. -/
theorem execute_executes (passes : Nat) (system : σ) (memory : β) :
    Ends (· = begun s system memory) (execute s passes)
      (fun _ => Executes s passes system memory (.ok ()))
      fun stop => Executes s passes system memory (.error stop) := by
  rintro _ rfl
  split
  · next hrun => exact Prod.ext hrun rfl
  · next hrun => exact Prod.ext hrun rfl

/-- What the phases lead to when none of them is stopped. -/
theorem Executes.ok {passes : Nat} {system : σ} {memory : β} {P Q : Run σ β → Prop}
    {E : Stop → Run σ β → Prop} (hrun : Executes s passes system memory (.ok ()) r)
    (h : Ends P (execute s passes) (fun _ => Q) E) (hP : P (begun s system memory)) : Q r := by
  have hspec := h _ hP
  rw [hrun] at hspec
  exact hspec

/-- What they lead to when one of them is stopped. -/
theorem Executes.error {passes : Nat} {system : σ} {memory : β} {P Q : Run σ β → Prop}
    {E : Stop → Run σ β → Prop} {stop : Stop}
    (hrun : Executes s passes system memory (.error stop) r)
    (h : Ends P (execute s passes) (fun _ => Q) E) (hP : P (begun s system memory)) : E stop r := by
  have hspec := h _ hP
  rw [hrun] at hspec
  exact hspec

/-! ### Stopping the devices -/

/-- What is done to a run between its phases and its end. -/
structure Closes (l : Lifecycle) (outcomes : List PhaseOutcome) (before after : List Move)
    (r final : Run σ β) : Prop where
  machine : final.machine = l
  phases : final.phases = r.phases ++ outcomes
  results : final.results = r.results
  devices : final.devices.length = r.devices.length
  moves : ∃ calls : List BackendCall, (∀ c ∈ calls, c.kind = .teardown) ∧
    final.moves.toList = r.moves.toList ++ (before ++ (calls.map .called ++ after))

theorem eq_map_called {new : List Move}
    (h : ∀ m ∈ new, ∃ c : BackendCall, m = .called c ∧ c.kind = .teardown) :
    ∃ calls : List BackendCall, (∀ c ∈ calls, c.kind = .teardown) ∧ new = calls.map .called := by
  induction new with
  | nil => exact ⟨[], by simp, rfl⟩
  | cons m rest ih =>
      obtain ⟨c, rfl, hkind⟩ := h m (List.mem_cons_self ..)
      obtain ⟨calls, hcalls, rfl⟩ := ih fun m' hm' => h m' (List.mem_cons_of_mem _ hm')
      refine ⟨c :: calls, fun c' hc' => ?_, rfl⟩
      rcases List.mem_cons.1 hc' with rfl | hc'
      · exact hkind
      · exact hcalls c' hc'

/-- A run that has gone through its phases goes through the last ones as well. -/
theorem followToEnd_collected (h : r.machine = .upTo .resultsCollected) :
    (followToEnd.run r).2 = { r with
      machine := .upTo .done
      moves := (r.moves.push (.entered .devicesStopped)).push (.entered .done) } := by
  obtain ⟨lab, memory, machine, devices, phases, results, logNames, resultLogs, moves⟩ := r
  cases h
  rfl

/-- A run that has failed enters no phase any more. -/
theorem followToEnd_failed {p : Phase} (h : r.machine = .failedIn p) : (followToEnd.run r).2 = r := by
  obtain ⟨lab, memory, machine, devices, phases, results, logNames, resultLogs, moves⟩ := r
  cases h
  rfl

/-- The devices are torn down, the last phases are entered if they may be, and the outcome is
written down. -/
theorem stopDevices_closes (r : Run σ β)
    (hend : ∀ r' : Run σ β, r'.machine = r.machine → ∃ moves : Array Move,
      moves.toList = r'.moves.toList ++ after ∧
        (followToEnd.run r').2 = { r' with machine := l', moves }) :
    Leads (· = r) (stopDevices s) fun _ => Closes l' [stoppedOutcome r] [] after r := by
  let Torn (r' : Run σ β) : Prop :=
    Adds (fun _ => ()) (fun m => ∃ c : BackendCall, m = .called c ∧ c.kind = .teardown) r r'
  have htorn : Robust (fun _ => ()) (fun m => ∃ c : BackendCall, m = .called c ∧ c.kind = .teardown)
      Torn := robust_adds r
  refine .bind (Q := fun _ => Torn) (.get fun _ h => h ▸ .refl r) fun run => ?_
  refine .bind (.forM fun index _ => performPlain_keeps htorn index
    (fun c hc => ⟨c, rfl, hc⟩) fun _ => rfl) fun _ => .bind (onLab_keeps htorn _) fun _ => ?_
  refine .bind (Q := fun _ => Closes l' [] [] after r) (fun r' h => ?_) fun _ => ?_
  · obtain ⟨moves, hmoves, hfollow⟩ := hend r' h.machine
    obtain ⟨new, hnew, hcalls⟩ := Adds.moves h
    obtain ⟨calls, hkinds, rfl⟩ := eq_map_called hcalls
    rw [hfollow]
    refine ⟨rfl, h.phases.trans (List.append_nil _).symm, h.results, h.length_devices, calls, hkinds, ?_⟩
    dsimp only
    rw [hmoves, hnew, List.append_assoc]
    rfl
  refine .bind (Q := fun run r' => run.devices.length = r.devices.length ∧ Closes l' [] [] after r r')
    (.get fun r' h => ⟨h.devices, h⟩) fun run => .modify fun r' h => ?_
  obtain ⟨hlength, h⟩ := h
  refine ⟨h.machine, ?_, h.results, h.devices, h.moves⟩
  rw [h.phases, List.append_nil, hlength]
  rfl

/-! ### The report -/

/-- Summing up and cleaning up add nothing to a run that is closed. -/
theorem Closes.robust {outcomes : List PhaseOutcome} {before : List Move} :
    Robust id (fun _ => False) (Closes l outcomes before after r) := by
  intro r₁ r₂ h hadds
  obtain ⟨calls, hcalls, hmoves⟩ := h.moves
  refine ⟨hadds.machine.trans h.machine, hadds.phases.trans h.phases,
    hadds.results.trans h.results, hadds.length_devices.trans h.devices, calls, hcalls, ?_⟩
  exact hadds.moves_eq.trans hmoves

/-- What is done to a run after its phases, by their outcome. -/
inductive Carries (r : Run σ β) : Except Stop Unit → Run σ β → Prop where
  | collected {r' : Run σ β} (h : Closes (.upTo .done) [stoppedOutcome r] []
      [.entered .devicesStopped, .entered .done] r r') : Carries r (.ok ()) r'
  | failed {o : PhaseOutcome} {p : Phase} {r' : Run σ β} (hmachine : r.machine = .upTo p)
      (h : Closes (.failedIn p) [o, stoppedOutcome r] [.entered .failed] [] r r') :
      Carries r (.error (.phase o)) r'

/-- How a run ends, by the outcome of its phases. -/
inductive Concludes (s : Setup σ β) (passes : Nat) (system : σ) (memory : β) :
    Except Breakdown RunReport → Run σ β → Prop where
  | collected {r : Run σ β} {report : RunReport} {final : Run σ β}
      (hrun : Executes s passes system memory (.ok ()) r)
      (h : Reports (.upTo .done) [] [] [.entered .devicesStopped, .entered .done] r final report) :
      Concludes s passes system memory (.ok report) final
  | failed {r : Run σ β} {o : PhaseOutcome} {p : Phase} {report : RunReport} {final : Run σ β}
      (hrun : Executes s passes system memory (.error (.phase o)) r) (hmachine : r.machine = .upTo p)
      (h : Reports (.failedIn p) [o] [.entered .failed] [] r final report) :
      Concludes s passes system memory (.ok report) final
  | broken {r : Run σ β} {cause : Breakdown} {final : Run σ β}
      (hrun : Executes s passes system memory (.error (.broken cause)) r)
      (hmoves : final.moves.toList = r.moves.toList) :
      Concludes s passes system memory (.error cause) final

theorem Carries.robust {outcome : Except Stop Unit} :
    Robust id (fun _ => False) (Carries r outcome) := by
  intro r₁ r₂ h hadds
  cases h with
  | collected h => exact .collected (Closes.robust r₁ r₂ h hadds)
  | failed hmachine h => exact .failed hmachine (Closes.robust r₁ r₂ h hadds)

theorem Carries.concludes {passes : Nat} {system : σ} {memory : β} {outcome : Except Stop Unit}
    {report : RunReport} (h : Carries r outcome final)
    (hrun : Executes s passes system memory outcome r)
    (hhistory : report.history = final.machine.history) (hsummary : SumsUp final report.summary) :
    Concludes s passes system memory (.ok report) final := by
  cases h with
  | collected h =>
      refine .collected hrun ⟨h.machine, h.phases, h.results, h.moves, ?_, hsummary⟩
      rw [hhistory, h.machine]
  | failed hmachine h =>
      refine .failed hrun hmachine ⟨h.machine, h.phases, h.results, h.moves, ?_, hsummary⟩
      rw [hhistory, h.machine]

/-- A run whose phases have been gone through. -/
theorem stopDevices_collected (hr : r.machine = .upTo .resultsCollected) :
    Leads (· = r) (stopDevices s) fun _ => Carries r (.ok ()) := by
  refine (stopDevices_closes r fun r' h => ⟨_, ?_, followToEnd_collected (h.trans hr)⟩).weaken
    fun _ r' h => .collected h
  simp only [Array.toList_push, List.append_assoc]
  rfl

/-- A run that was stopped in a phase. -/
theorem fail_closes {p : Phase} (hr : r.machine = .upTo p)
    (hp : p.rank ≤ Phase.devicesStopped.rank) (o : PhaseOutcome) :
    Leads (· = r) (do addPhase o; follow .failed; stopDevices s : StateM (Run σ β) Unit)
      fun _ => Carries r (.error (.phase o)) := by
  let failed : Run σ β := { r with
    phases := r.phases ++ [o]
    machine := .failedIn p
    moves := r.moves.push (.entered .failed) }
  refine .bind (Q := fun _ r' => r' = { r with phases := r.phases ++ [o] })
    (.modify fun r' h => by rw [h]) fun _ => .bind (Q := fun _ r' => r' = failed)
      (.modify fun r' h => ?_) fun _ => ?_
  · rw [h]
    dsimp only
    rw [hr, Lifecycle.transition_failed hp]
  have hcloses : Leads (· = failed) (stopDevices s)
      fun _ => Closes (.failedIn p) [stoppedOutcome failed] [] [] failed := by
    refine stopDevices_closes failed fun r' h => ⟨r'.moves, (List.append_nil _).symm, ?_⟩
    have hmachine : r'.machine = .failedIn p := h
    rw [followToEnd_failed hmachine, ← hmachine]
  refine hcloses.weaken fun _ r' h => .failed hr ?_
  obtain ⟨calls, hcalls, hmoves⟩ := h.moves
  refine ⟨h.machine, h.phases.trans (List.append_assoc ..), h.results, h.devices, calls, hcalls, ?_⟩
  rw [hmoves, Array.toList_push, List.append_assoc]
  rfl

/-- The phases of a run lead to a run that is closed, unless the run breaks down.  It is enough to
know which phase the machine is in after them. -/
theorem carryOut_closes {passes : Nat} {system : σ} {memory : β}
    (hcollected : ∀ r, Executes s passes system memory (.ok ()) r →
      r.machine = .upTo .resultsCollected)
    (hstopped : ∀ o r, Executes s passes system memory (.error (.phase o)) r →
      ∃ p, r.machine = .upTo p ∧ p.rank ≤ Phase.devicesStopped.rank) :
    Ends (· = begun s system memory) (carryOut s passes)
      (fun _ r' => ∃ outcome r, Executes s passes system memory outcome r ∧ Carries r outcome r')
      fun cause r' => Executes s passes system memory (.error (.broken cause)) r' := by
  refine carryOut_ends (execute_executes passes system memory) (.of_eq fun r hrun => ?_)
    (fun o => .of_eq fun r hrun => ?_) fun _ _ hrun => hrun
  · exact (stopDevices_collected (hcollected r hrun)).weaken fun _ r' h => ⟨_, r, hrun, h⟩
  · obtain ⟨p, hmachine, hrank⟩ := hstopped o r hrun
    exact (fail_closes hmachine hrank o).weaken fun _ r' h => ⟨_, r, hrun, h⟩

theorem carryOut_carries (hv : s.plan.config.SuitesValid) (passes : Nat) (system : σ) (memory : β) :
    Ends (· = begun s system memory) (carryOut s passes)
      (fun _ r' => ∃ outcome r, Executes s passes system memory outcome r ∧ Carries r outcome r')
      fun cause r' => Executes s passes system memory (.error (.broken cause)) r' := by
  have hspec := execute_spec (s := s) s.backend.keeps_nothing hv passes
  have hbegun := begun_begun s system memory
  refine carryOut_closes (fun r hrun => (hrun.ok hspec hbegun).1.machine) fun o r hrun => ?_
  obtain ⟨p, hhalted⟩ := hrun.error hspec hbegun o rfl
  exact ⟨p, hhalted.machine, Nat.le_trans hhalted.rank (by decide)⟩

/-- Every run ends as the outcome of its phases says. -/
theorem startWithin_concludes (hv : s.plan.config.SuitesValid) (passes : Nat) (system : σ)
    (memory : β) :
    Leads (· = .fresh s.plan system memory) (startWithin s passes).run
      (Concludes s passes system memory) := by
  refine .attempt (.bind (Q := fun summary r' => (∃ outcome r,
      Executes s passes system memory outcome r ∧ Carries r outcome r') ∧ SumsUp r' summary)
    (.bind (Q := fun _ r => r = begun s system memory) (by rintro _ rfl; rfl) fun started =>
      .bind (.tryCatch (carryOut_carries hv passes system memory) fun cause => ?_) fun _ => ?_)
    fun summary => ?_)
  · -- a run that breaks down only ends its processes
    refine .bind (Q := fun _ r' => ∃ r, Executes s passes system memory (.error (.broken cause)) r ∧
        r'.moves.toList = r.moves.toList) (.modifyGet fun r hr => ⟨r, hr, rfl⟩)
      fun _ => .throw fun r' h => ?_
    obtain ⟨r, hrun, hmoves⟩ := h
    exact .broken hrun hmoves
  · refine .of_eq fun r' h => .lift ((sumUp_spec started r').weaken fun summary r'' h' => ⟨?_, h'.2⟩)
    obtain ⟨outcome, r, hrun, hcarries⟩ := h
    exact ⟨outcome, r, hrun, Carries.robust r' r'' hcarries h'.1⟩
  · refine .of_eq fun r' h => ?_
    obtain ⟨⟨outcome, r, hrun, hcarries⟩, hsummary⟩ := h
    refine .bind (.lift (finish_spec r' hsummary)) fun report => ?_
    have hrobust : Robust id (fun _ => False) fun r'' : Run σ β =>
        Adds id (fun _ => False) r' r'' ∧ report.history = r'.machine.history ∧
          SumsUp r' report.summary :=
      fun r₁ r₂ h hadds => ⟨h.1.trans hadds, h.2⟩
    refine .bind (onLab_keeps' hrobust _) fun _ => .pure fun r'' h => ?_
    obtain ⟨hadds, hhistory, hsummary⟩ := h
    exact (Carries.robust r' r'' hcarries hadds).concludes hrun
      (hhistory.trans (congrArg _ hadds.machine.symm)) (hsummary.keeps hadds)

end Run

end DeviceLab
