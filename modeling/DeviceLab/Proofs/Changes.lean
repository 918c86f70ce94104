import DeviceLab.Supervisor.Basic
import Mathlib.Logic.Relation

/-! # What can happen to a lab

Whatever the host does, a lab changes in a few ways only.  Most changes concern one process that is
held, and let it be held (`Tends`); the others take a process up, fail to, or give one up
(`Change`). What one change keeps is kept by every operation of the supervisor, and so by every
run.

* `Host.Plain`: the operations of a system that have nothing to do with children and their output.
* `Exits`, `Launches`, `Unlaunched`, `Releases`: an exit that is seen, a launch, a launch that fails,
  and the end of a release.
* `Tends`, `Tending`: one change, and a row of them, to some of the processes that are held.
* `Change`, `Evolves`: any change, and any row of changes.
* `Orderly`: the journal tells which handles are in use. -/

namespace DeviceLab

variable {σ α : Type} {host : Host σ}

/-! ### Looking processes up -/

namespace Supervisor

variable {s : Supervisor} {id other : ProcessId} {p : Supervised} {pid g : Nat} {o : ExitOutcome}

/-- The process of a handle has a number. -/
def Holds (s : Supervisor) (id : ProcessId) (pid : Nat) : Prop :=
  ∃ p, s.proc? id = some p ∧ p.pid = pid

/-- It has not been seen to exit. -/
def Live (s : Supervisor) (id : ProcessId) (pid : Nat) : Prop :=
  ∃ p, s.proc? id = some p ∧ p.pid = pid ∧ p.outcome = none

/-- It has been seen to exit in some way. -/
def Ended (s : Supervisor) (id : ProcessId) (pid : Nat) (o : ExitOutcome) : Prop :=
  ∃ p, s.proc? id = some p ∧ p.pid = pid ∧ p.outcome = some o

theorem Live.holds (h : s.Live id pid) : s.Holds id pid := by
  obtain ⟨p, hp, hpid, -⟩ := h
  exact ⟨p, hp, hpid⟩

theorem Ended.holds (h : s.Ended id pid o) : s.Holds id pid := by
  obtain ⟨p, hp, hpid, -⟩ := h
  exact ⟨p, hp, hpid⟩

theorem Holds.unique {pid' : Nat} (h : s.Holds id pid) (h' : s.Holds id pid') : pid = pid' := by
  obtain ⟨p, hp, rfl⟩ := h
  obtain ⟨q, hq, rfl⟩ := h'
  cases hp.symm.trans hq
  rfl

theorem Holds.ne_none (h : s.Holds id pid) : s.proc? id ≠ none := by
  obtain ⟨p, hp, -⟩ := h
  rw [hp]
  exact nofun

/-- A process that is held is alive or known to have ended. -/
theorem Holds.cases (h : s.Holds id pid) : s.Live id pid ∨ ∃ o, s.Ended id pid o := by
  obtain ⟨p, hp, hpid⟩ := h
  cases ho : p.outcome with
  | none => exact .inl ⟨p, hp, hpid, ho⟩
  | some o => exact .inr ⟨o, p, hp, hpid, ho⟩

theorem Ended.unique {pid' : Nat} {o' : ExitOutcome} (h : s.Ended id pid o)
    (h' : s.Ended id pid' o') : o = o' := by
  obtain ⟨p, hp, -, ho⟩ := h
  obtain ⟨q, hq, -, ho'⟩ := h'
  cases hp.symm.trans hq
  exact Option.some.inj (ho.symm.trans ho')

theorem Ended.not_live {pid' : Nat} (h : s.Ended id pid o) : ¬s.Live id pid' := by
  rintro ⟨q, hq, -, hnone⟩
  obtain ⟨p, hp, -, ho⟩ := h
  cases hp.symm.trans hq
  rw [hnone] at ho
  cases ho

theorem Ended.outcome? (h : s.Ended id pid o) : s.outcome? id = some o := by
  obtain ⟨p, hp, -, ho⟩ := h
  rw [Supervisor.outcome?, hp, Option.bind_some, ho]

theorem proc?_update (s : Supervisor) (id other : ProcessId) (change : Supervised → Supervised) :
    (s.update id change).proc? other =
      if other = id then (s.proc? other).map change else s.proc? other := by
  obtain ⟨procs, nextId, grace, captureDir, groups⟩ := s
  simp only [proc?, update]
  induction procs with
  | nil => simp
  | cons entry rest ih =>
      obtain ⟨key, p⟩ := entry
      simp only [List.map_cons, List.find?_cons]
      by_cases hkey : key = other
      · subst hkey
        by_cases hid : key = id <;> simp [hid]
      · have hne : (key == other) = false := by simpa using hkey
        by_cases hid : key = id
        · simpa [hid, hid ▸ hne] using ih
        · simpa [hid, hne] using ih

theorem proc?_forget (s : Supervisor) (id other : ProcessId) :
    (s.forget id).proc? other = if other = id then none else s.proc? other := by
  obtain ⟨procs, nextId, grace, captureDir, groups⟩ := s
  simp only [proc?, forget, List.find?_filter]
  split
  · next h =>
      subst h
      simp
  · next h =>
      congr 1
      congr 1
      funext entry
      by_cases hkey : entry.1 = other
      · subst hkey
        simpa using h
      · simp [hkey]

/-- What was held stays held under its handle when a process is taken up. -/
theorem proc?_enroll (s : Supervisor) (p : Supervised) (other : ProcessId) :
    (s.enroll p).2.proc? other =
      (s.proc? other).or (if other = ⟨s.nextId⟩ then some p else none) := by
  simp only [proc?, enroll, List.find?_append, List.find?_cons, List.find?_nil]
  by_cases h : other = ⟨s.nextId⟩
  · subst h
    cases s.procs.find? fun entry => entry.1 == ⟨s.nextId⟩ <;> simp
  · have hne : (⟨s.nextId⟩ == other) = false := by simpa using fun heq => h heq.symm
    cases s.procs.find? fun entry => entry.1 == other <;> simp [h, hne]

theorem proc?_enroll_self (h : s.proc? ⟨s.nextId⟩ = none) :
    (s.enroll p).2.proc? ⟨s.nextId⟩ = some p := by
  rw [proc?_enroll, h, Option.none_or, if_pos rfl]

theorem proc?_enroll_of_ne (h : other ≠ ⟨s.nextId⟩) :
    (s.enroll p).2.proc? other = s.proc? other := by
  rw [proc?_enroll, if_neg h, Option.or_none]

@[simp] theorem proc?_unlistGroup : (s.unlistGroup pid).proc? id = s.proc? id := rfl

@[simp] theorem proc?_useGroups {shared : List Nat} : (s.useGroups shared).proc? id = s.proc? id := rfl

theorem mem_ids : id ∈ s.ids ↔ (s.proc? id).isSome := by
  simp [ids, proc?, List.find?_isSome]

/-- There is no process left exactly when no handle has one. -/
theorem procs_eq_nil : s.procs = [] ↔ ∀ id, s.proc? id = none := by
  refine ⟨fun h id => by simp [proc?, h], fun h => ?_⟩
  have hids : s.ids = [] := List.eq_nil_iff_forall_not_mem.2 fun id hid => by
    have hsome := mem_ids.1 hid
    rw [h id] at hsome
    cases hsome
  simpa [ids] using hids

theorem mem_insertGroup {groups : List Nat} : g ∈ insertGroup pid groups ↔ g = pid ∨ g ∈ groups := by
  induction groups with
  | nil => simp [insertGroup]
  | cons other rest ih =>
      unfold insertGroup
      split
      · simp
      split
      · next heq => simp [heq]
      · simp [ih, or_left_comm]

@[simp] theorem mem_unlistGroup : g ∈ (s.unlistGroup pid).groups ↔ g ∈ s.groups ∧ g ≠ pid := by
  simp [unlistGroup]

/-- Nothing that is listed is lost when another list is used. -/
theorem mem_useGroups {shared : List Nat} :
    g ∈ (s.useGroups shared).groups ↔ g ∈ s.groups ∨ g ∈ shared := by
  have hfold : ∀ groups acc : List Nat,
      g ∈ groups.foldl (fun acc pid => insertGroup pid acc) acc ↔ g ∈ groups ∨ g ∈ acc := by
    intro groups
    induction groups with
    | nil => simp
    | cons pid rest ih =>
        intro acc
        rw [List.foldl_cons, ih, mem_insertGroup, List.mem_cons, or_assoc, or_left_comm]
  exact hfold s.groups shared

end Supervisor

open Supervisor (Holds Live Ended)

/-! ### Changes -/

/-- The operations of a system other than those with children and with files for their output. -/
inductive Host.Plain (host : Host σ) : {α : Type} → StateM σ α → Prop where
  | now : Plain host host.now
  | timestamp : Plain host host.timestamp
  | pause (d : Duration) (groups : List Nat) : Plain host (host.pause d groups)
  | cancelRequested : Plain host host.cancelRequested
  | requestCancel : Plain host host.requestCancel
  | signalGroup (pid : Nat) (signal : StopSignal) : Plain host (host.signalGroup pid signal)
  | signalProcess (target : Int) (signal : StopSignal) :
      Plain host (host.signalProcess target signal)
  | ownPid : Plain host host.ownPid
  | listProcesses : Plain host host.listProcesses.run
  | readFile (path : String) : Plain host (host.readFile path).run
  | fileSize (path : String) : Plain host (host.fileSize path).run
  | pathExists (path : String) : Plain host (host.pathExists path)
  | writeFile (path : String) (bytes : Text.Bytes) : Plain host (host.writeFile path bytes).run
  | copyFile (source target : String) : Plain host (host.copyFile source target).run
  | createDirectories (path : String) : Plain host (host.createDirectories path).run
  | connect (address : String) (port : Nat) (limit : Duration) :
      Plain host (host.connect address port limit).run
  | askRedirects (redirects : List Redirect) (limit : Duration) :
      Plain host (host.askRedirects redirects limit)
  | askStatus (limit : Duration) : Plain host (host.askStatus limit)
  | awaitPrompt (limit : Duration) : Plain host (host.awaitPrompt limit)

/-- In a state of the system a child is seen to have ended, in one of the two ways to look. -/
def Host.Tells (host : Host σ) (pid : Nat) (o : ExitOutcome) (system system' : σ) : Prop :=
  (host.tryWait pid).run.run system = (.ok (some o), system') ∨
    (host.wait pid).run.run system = (.ok o, system')

/-- It is looked at, but not seen to have ended. -/
def Host.Hides (host : Host σ) (pid : Nat) (system system' : σ) : Prop :=
  (∃ r, (host.tryWait pid).run.run system = (r, system') ∧ ∀ o, r ≠ .ok (some o)) ∨
    ∃ cause, (host.wait pid).run.run system = (.error cause, system')

/-- It cannot be looked at. -/
def Host.Fails (host : Host σ) (pid : Nat) (system : σ) : Prop :=
  (∃ cause, ((host.tryWait pid).run.run system).1 = .error cause) ∨
    ∃ cause, ((host.wait pid).run.run system).1 = .error cause

/-- An event that is neither the beginning nor the end of a process or a handle. -/
def Event.Aside : Event → Prop
  | .launched _ _ | .exited _ _ | .released _ => False
  | _ => True

namespace Lab

/-- The exit of a process that was alive is seen, and written down. -/
def Exits (host : Host σ) (id : ProcessId) (pid : Nat) (o : ExitOutcome) (lab lab' : Lab σ) : Prop :=
  lab.supervisor.Live id pid ∧ ∃ system, host.Tells pid o lab.system system ∧
    lab' =
      { system, supervisor := lab.supervisor.update id fun p => { p with outcome := some o }
        journal := lab.journal ++ [.exited id o] }

/-- One change that concerns the system alone, or a process that is held and satisfies `P`. -/
inductive Tends (host : Host σ) (P : ProcessId → Prop) : Lab σ → Lab σ → Prop where
  | turned (lab : Lab σ) {α : Type} {operation : StateM σ α} (h : host.Plain operation) :
      Tends host P lab { lab with system := (operation.run lab.system).2 }
  | noted (lab : Lab σ) {event : Event} (h : event.Aside) :
      Tends host P lab { lab with journal := lab.journal ++ [event] }
  /-- A process that has not been seen to exit is looked at in vain. -/
  | looked (lab : Lab σ) {id : ProcessId} {pid : Nat} {system : σ} (hid : P id)
      (hlive : lab.supervisor.Live id pid) (h : host.Hides pid lab.system system) :
      Tends host P lab { lab with system }
  | exited {lab lab' : Lab σ} {id : ProcessId} {pid : Nat} {o : ExitOutcome} (hid : P id)
      (h : Exits host id pid o lab lab') : Tends host P lab lab'
  /-- The group of a process that has been seen to exit is taken off the list. -/
  | unlisted (lab : Lab σ) {id : ProcessId} {pid : Nat} {o : ExitOutcome} (hid : P id)
      (hended : lab.supervisor.Ended id pid o) :
      Tends host P lab { lab with supervisor := lab.supervisor.unlistGroup pid }
  /-- Nothing is to be swept after a process any more. -/
  | spared (lab : Lab σ) {id : ProcessId} (hid : P id) :
      Tends host P lab
        { lab with supervisor := lab.supervisor.update id fun p => { p with strayPattern := none } }

/-- A row of such changes. -/
abbrev Tending (host : Host σ) (P : ProcessId → Prop) : Lab σ → Lab σ → Prop :=
  Relation.ReflTransGen (Tends host P)

/-- A process has been launched, and has a handle. -/
def Launches (host : Host σ) (spec : LaunchSpec) (id : ProcessId) (lab lab' : Lab σ) : Prop :=
  ∃ capture between pid after,
    (host.createCapture lab.supervisor.captureDir).run.run lab.system = (.ok capture, between) ∧
    (host.spawn spec capture).run.run between = (.ok pid, after) ∧ id = ⟨lab.supervisor.nextId⟩ ∧
    lab' =
      { system := after
        supervisor := (lab.supervisor.enroll
          { label := spec.label, pid, capture, strayPattern := spec.strayPattern }).2
        journal := lab.journal ++ [.launched id spec] }

/-- A launch has failed: nothing was tried, there was no file for the output, or the program was not
started and the file has been removed. -/
inductive Unlaunched (host : Host σ) : Lab σ → Lab σ → Prop where
  | empty (lab : Lab σ) : Unlaunched host lab lab
  | uncaptured (lab : Lab σ) {cause : IoError} {system : σ}
      (h : (host.createCapture lab.supervisor.captureDir).run.run lab.system =
        (.error cause, system)) : Unlaunched host lab { lab with system }
  | unspawned (lab : Lab σ) {spec : LaunchSpec} {capture : String} {cause : IoError}
      {between after : σ}
      (hcapture : (host.createCapture lab.supervisor.captureDir).run.run lab.system =
        (.ok capture, between))
      (hspawn : (host.spawn spec capture).run.run between = (.error cause, after)) :
      Unlaunched host lab
        { lab with system := ((host.removeFile capture).run.run after).2 }

theorem Unlaunched.supervisor {lab lab' : Lab σ} (h : Unlaunched host lab lab') :
    lab'.supervisor = lab.supervisor := by
  cases h <;> rfl

/-- A process that has been seen to exit is forgotten, and its output is removed. -/
def Releases (host : Host σ) (id : ProcessId) (lab lab' : Lab σ) : Prop :=
  ∃ p o, lab.supervisor.proc? id = some p ∧ p.outcome = some o ∧
    lab' =
      { system := ((host.removeFile p.capture).run.run lab.system).2
        supervisor := (lab.supervisor.forget id).unlistGroup p.pid
        journal := lab.journal ++ [.released id] }

/-- One change of any kind. -/
inductive Change (host : Host σ) : Lab σ → Lab σ → Prop where
  | tended {lab lab' : Lab σ} (h : Tends host (fun _ => True) lab lab') : Change host lab lab'
  | launched {spec : LaunchSpec} {id : ProcessId} {lab lab' : Lab σ}
      (h : Launches host spec id lab lab') : Change host lab lab'
  | unlaunched {lab lab' : Lab σ} (h : Unlaunched host lab lab') : Change host lab lab'
  | released {id : ProcessId} {lab lab' : Lab σ} (h : Releases host id lab lab') :
      Change host lab lab'

/-- A row of changes. -/
abbrev Evolves (host : Host σ) : Lab σ → Lab σ → Prop := Relation.ReflTransGen (Change host)

/-! ### What changes keep -/

section Keep

variable {P Q : ProcessId → Prop} {lab lab' : Lab σ} {id : ProcessId} {pid : Nat} {o : ExitOutcome}

/-- The first process may have come out of the second one by changes that let it be held. -/
structure Follows (q p : Supervised) : Prop where
  pid : q.pid = p.pid
  capture : q.capture = p.capture
  outcome : ∀ o, p.outcome = some o → q.outcome = some o

theorem Follows.refl (p : Supervised) : Follows p p := ⟨rfl, rfl, fun _ h => h⟩

theorem Follows.trans {p q r : Supervised} (h : Follows r q) (h' : Follows q p) : Follows r p :=
  ⟨h.pid.trans h'.pid, h.capture.trans h'.capture, fun o ho => h.outcome o (h'.outcome o ho)⟩

/-- Every handle has a process after a change exactly if it had one before, and that one follows. -/
theorem Tends.proc? (h : Tends host P lab lab') (id : ProcessId) :
    (lab.supervisor.proc? id = none ∧ lab'.supervisor.proc? id = none) ∨
    ∃ p q, lab.supervisor.proc? id = some p ∧ lab'.supervisor.proc? id = some q ∧ Follows q p := by
  have hsame : ∀ s : Supervisor, s.proc? id = lab.supervisor.proc? id →
      (lab.supervisor.proc? id = none ∧ s.proc? id = none) ∨
        ∃ p q, lab.supervisor.proc? id = some p ∧ s.proc? id = some q ∧ Follows q p := by
    intro s hs
    rw [hs]
    cases lab.supervisor.proc? id with
    | none => exact .inl ⟨rfl, rfl⟩
    | some p => exact .inr ⟨p, p, rfl, rfl, .refl p⟩
  have hupdate : ∀ (other : ProcessId) (change : Supervised → Supervised),
      (∀ p, lab.supervisor.proc? other = some p → Follows (change p) p) →
      (lab.supervisor.proc? id = none ∧ (lab.supervisor.update other change).proc? id = none) ∨
        ∃ p q, lab.supervisor.proc? id = some p ∧
          (lab.supervisor.update other change).proc? id = some q ∧ Follows q p := by
    intro other change hchange
    rw [Supervisor.proc?_update]
    split
    · next heq =>
        subst heq
        cases hp : lab.supervisor.proc? id with
        | none => exact .inl ⟨rfl, rfl⟩
        | some p => exact .inr ⟨p, change p, rfl, rfl, hchange p hp⟩
    · exact hsame lab.supervisor rfl
  cases h with
  | exited hid h =>
      obtain ⟨⟨p', hp', -, hnone⟩, system, -, rfl⟩ := h
      refine hupdate _ _ fun p hp => ⟨rfl, rfl, fun o ho => ?_⟩
      cases hp.symm.trans hp'
      rw [hnone] at ho
      cases ho
  | spared hid => exact hupdate _ _ fun p _ => ⟨rfl, rfl, fun o ho => ho⟩
  | _ => exact hsame _ rfl

theorem Tending.proc? (h : Tending host P lab lab') (id : ProcessId) :
    (lab.supervisor.proc? id = none ∧ lab'.supervisor.proc? id = none) ∨
    ∃ p q, lab.supervisor.proc? id = some p ∧ lab'.supervisor.proc? id = some q ∧ Follows q p := by
  induction h with
  | refl =>
      cases lab.supervisor.proc? id with
      | none => exact .inl ⟨rfl, rfl⟩
      | some p => exact .inr ⟨p, p, rfl, rfl, .refl p⟩
  | tail _ hstep ih =>
      rcases hstep.proc? id with ⟨hnone, hnone'⟩ | ⟨q, r, hq, hr, hfollows⟩
      · rcases ih with ⟨hp, -⟩ | ⟨p, q, -, hq, -⟩
        · exact .inl ⟨hp, hnone'⟩
        · rw [hq] at hnone
          cases hnone
      · rcases ih with ⟨-, hnone⟩ | ⟨p, q', hp, hq', hfollows'⟩
        · rw [hq] at hnone
          cases hnone
        · cases hq.symm.trans hq'
          exact .inr ⟨p, r, hp, hr, hfollows.trans hfollows'⟩

/-- Which processes are held does not change. -/
theorem Tending.holds (h : Tending host P lab lab') :
    lab'.supervisor.Holds id pid ↔ lab.supervisor.Holds id pid := by
  rcases h.proc? id with ⟨hnone, hnone'⟩ | ⟨p, q, hp, hq, hfollows⟩
  · simp [Holds, hnone, hnone']
  · simp [Holds, hp, hq, hfollows.pid]

theorem Tending.isSome (h : Tending host P lab lab') :
    (lab'.supervisor.proc? id).isSome ↔ (lab.supervisor.proc? id).isSome := by
  rcases h.proc? id with ⟨hnone, hnone'⟩ | ⟨p, q, hp, hq, -⟩
  · simp [hnone, hnone']
  · simp [hp, hq]

/-- What has been seen of the end of a process stays. -/
theorem Tending.ended (h : Tending host P lab lab') (hended : lab.supervisor.Ended id pid o) :
    lab'.supervisor.Ended id pid o := by
  obtain ⟨p, hp, hpid, ho⟩ := hended
  rcases h.proc? id with ⟨hnone, -⟩ | ⟨p', q, hp', hq, hfollows⟩
  · rw [hp] at hnone
    cases hnone
  · cases hp.symm.trans hp'
    exact ⟨q, hq, hfollows.pid.trans hpid, hfollows.outcome o ho⟩

/-- No process comes to life again. -/
theorem Tending.live (h : Tending host P lab lab') (hlive : lab'.supervisor.Live id pid) :
    lab.supervisor.Live id pid := by
  obtain ⟨q, hq, hpid, hnone⟩ := hlive
  rcases h.proc? id with ⟨-, hnone'⟩ | ⟨p, q', hp, hq', hfollows⟩
  · rw [hq] at hnone'
    cases hnone'
  · cases hq.symm.trans hq'
    refine ⟨p, hp, hfollows.pid.symm.trans hpid, ?_⟩
    cases ho : p.outcome with
    | none => rfl
    | some o =>
        rw [hfollows.outcome o ho] at hnone
        cases hnone

/-- What is held under other handles is left alone. -/
theorem Tending.proc?_eq (h : Tending host P lab lab') (hid : ¬P id) :
    lab'.supervisor.proc? id = lab.supervisor.proc? id := by
  induction h with
  | refl => rfl
  | tail _ hstep ih =>
      refine Eq.trans ?_ ih
      cases hstep with
      | exited hother h =>
          obtain ⟨-, system, -, rfl⟩ := h
          rw [Supervisor.proc?_update, if_neg fun heq => hid (by rw [heq]; exact hother)]
      | spared hother =>
          rw [Supervisor.proc?_update, if_neg fun heq => hid (by rw [heq]; exact hother)]
      | _ => rfl

/-- A process whose exit has been seen is known to have ended. -/
theorem Exits.ended (h : Exits host id pid o lab lab') : lab'.supervisor.Ended id pid o := by
  obtain ⟨⟨p, hp, hpid, -⟩, system, -, rfl⟩ := h
  exact ⟨{ p with outcome := some o }, by rw [Supervisor.proc?_update, if_pos rfl, hp]; rfl, hpid, rfl⟩

/-- A group is taken off the list only after its process has been seen to exit. -/
theorem Tending.mem_groups {g : Nat} (h : Tending host P lab lab') (hg : g ∈ lab.supervisor.groups) :
    g ∈ lab'.supervisor.groups ∨ ∃ id o, P id ∧ lab'.supervisor.Ended id g o := by
  induction h with
  | refl => exact .inl hg
  | tail _ hstep ih =>
      rcases ih with ih | ⟨id, o, hid, hended⟩
      · cases hstep with
        | exited hid h =>
            obtain ⟨-, system, -, rfl⟩ := h
            exact .inl ih
        | @unlisted id pid o hid hended =>
            by_cases heq : g = pid
            · subst heq
              exact .inr ⟨id, o, hid, hended⟩
            · exact .inl (Supervisor.mem_unlistGroup.2 ⟨ih, heq⟩)
        | _ => exact .inl ih
      · exact .inr ⟨id, o, hid, Tending.ended (.single hstep) hended⟩

theorem Tends.mono (h : Tends host P lab lab') (hPQ : ∀ id, P id → Q id) : Tends host Q lab lab' := by
  cases h with
  | turned h => exact .turned lab h
  | noted h => exact .noted lab h
  | looked hid hlive h => exact .looked lab (hPQ _ hid) hlive h
  | exited hid h => exact .exited (hPQ _ hid) h
  | unlisted hid hended => exact .unlisted lab (hPQ _ hid) hended
  | spared hid => exact .spared lab (hPQ _ hid)

theorem Tending.evolves (h : Tending host P lab lab') : Evolves host lab lab' :=
  Relation.ReflTransGen.mono (fun _ _ hstep => .tended (Tends.mono hstep fun _ _ => trivial)) _ _ h

end Keep

/-! ### The journal -/

/-- A handle has been given out. -/
def Given (journal : List Event) (id : ProcessId) : Prop := ∃ spec, .launched id spec ∈ journal

/-- It has not been taken back since. -/
def InUse (journal : List Event) (id : ProcessId) : Prop :=
  Given journal id ∧ .released id ∉ journal

/-- The journal tells which handles are in use, and how processes have ended. -/
structure Orderly (lab : Lab σ) : Prop where
  fresh : ∀ id, Given lab.journal id → id.number < lab.supervisor.nextId
  held : ∀ id, (lab.supervisor.proc? id).isSome ↔ InUse lab.journal id
  released : ∀ id, .released id ∈ lab.journal → Given lab.journal id
  ended : ∀ id pid o, lab.supervisor.Ended id pid o → .exited id o ∈ lab.journal

section Journal

variable {P : ProcessId → Prop} {lab lab' : Lab σ} {spec : LaunchSpec} {id : ProcessId} {pid : Nat}
  {o : ExitOutcome}

/-- A lab in which nothing has happened is orderly. -/
theorem Orderly.of_fresh (hprocs : lab.supervisor.procs = []) (hjournal : lab.journal = []) :
    Orderly lab := by
  have hnone := Supervisor.procs_eq_nil.1 hprocs
  have hgiven : ∀ id, ¬Given lab.journal id := fun id h => by
    obtain ⟨spec, hspec⟩ := h
    rw [hjournal] at hspec
    cases hspec
  refine ⟨fun id h => absurd h (hgiven id), fun id => ?_, fun id h => ?_, fun id pid o h => ?_⟩
  · rw [hnone id]
    exact ⟨nofun, fun h => absurd h.1 (hgiven id)⟩
  · rw [hjournal] at h
    cases h
  · exact absurd (hnone id) h.holds.ne_none

/-- A change to what is held gives no handle out and takes none back. -/
theorem Tends.handles (h : Tends host P lab lab') (id : ProcessId) :
    lab'.supervisor.nextId = lab.supervisor.nextId ∧
    (Given lab'.journal id ↔ Given lab.journal id) ∧
    (.released id ∈ lab'.journal ↔ .released id ∈ lab.journal) := by
  cases h with
  | noted h =>
      rename_i event
      refine ⟨rfl, ⟨fun ⟨spec, hspec⟩ => ⟨spec, ?_⟩, fun ⟨spec, hspec⟩ => ⟨spec, ?_⟩⟩, ?_⟩
      · rcases List.mem_append.1 hspec with hspec | hspec
        · exact hspec
        · cases List.mem_singleton.1 hspec
          exact h.elim
      · exact List.mem_append_left _ hspec
      · refine ⟨fun hid => ?_, List.mem_append_left _⟩
        rcases List.mem_append.1 hid with hid | hid
        · exact hid
        · cases List.mem_singleton.1 hid
          exact h.elim
  | exited hid h =>
      obtain ⟨-, system, -, rfl⟩ := h
      simp [Given, Supervisor.update]
  | _ => exact ⟨rfl, Iff.rfl, Iff.rfl⟩

theorem Tending.handles (h : Tending host P lab lab') (id : ProcessId) :
    lab'.supervisor.nextId = lab.supervisor.nextId ∧
    (Given lab'.journal id ↔ Given lab.journal id) ∧
    (.released id ∈ lab'.journal ↔ .released id ∈ lab.journal) := by
  induction h with
  | refl => exact ⟨rfl, Iff.rfl, Iff.rfl⟩
  | tail _ hstep ih =>
      obtain ⟨hnext, hgiven, hreleased⟩ := Tends.handles hstep id
      exact ⟨hnext.trans ih.1, hgiven.trans ih.2.1, hreleased.trans ih.2.2⟩

/-- A process that is known to have ended was known to before, or its exit has just been seen. -/
theorem Tends.ended_back (h : Tends host P lab lab') (hended : lab'.supervisor.Ended id pid o) :
    lab.supervisor.Ended id pid o ∨ Exits host id pid o lab lab' := by
  cases h with
  | exited hid h =>
      obtain ⟨hlive, system, htells, rfl⟩ := h
      obtain ⟨q, hq, hqpid, ho⟩ := hended
      rw [Supervisor.proc?_update] at hq
      split at hq
      · next heq =>
          subst heq
          obtain ⟨p, hp, hpid, hnone⟩ := hlive
          rw [hp] at hq
          cases hq
          cases ho
          cases hpid.symm.trans hqpid
          exact .inr ⟨⟨p, hp, hpid, hnone⟩, system, htells, rfl⟩
      · exact .inl ⟨q, hq, hqpid, ho⟩
  | spared hid =>
      obtain ⟨q, hq, hqpid, ho⟩ := hended
      rw [Supervisor.proc?_update] at hq
      split at hq
      · cases hp : lab.supervisor.proc? id with
        | none =>
            rw [hp] at hq
            cases hq
        | some p =>
            rw [hp] at hq
            cases hq
            exact .inl ⟨p, hp, hqpid, ho⟩
      · exact .inl ⟨q, hq, hqpid, ho⟩
  | _ => exact .inl hended

/-- Nothing is taken out of the journal. -/
theorem Change.journal (h : Change host lab lab') : ∃ new, lab'.journal = lab.journal ++ new := by
  cases h with
  | tended h =>
      cases h with
      | noted h => exact ⟨_, rfl⟩
      | exited hid h =>
          obtain ⟨-, system, -, rfl⟩ := h
          exact ⟨_, rfl⟩
      | _ => exact ⟨[], (List.append_nil _).symm⟩
  | launched h =>
      obtain ⟨capture, between, pid, after, -, -, -, rfl⟩ := h
      exact ⟨_, rfl⟩
  | unlaunched h => cases h <;> exact ⟨[], (List.append_nil _).symm⟩
  | released h =>
      obtain ⟨p, o, -, -, rfl⟩ := h
      exact ⟨_, rfl⟩

theorem Tends.orderly (h : Tends host P lab lab') (hlab : Orderly lab) : Orderly lab' where
  fresh id hid := by
    obtain ⟨hnext, hgiven, -⟩ := h.handles id
    rw [hnext]
    exact hlab.fresh id (hgiven.1 hid)
  held id := by
    obtain ⟨-, hgiven, hreleased⟩ := h.handles id
    rw [Tending.isSome (.single h), hlab.held id, InUse, InUse, hgiven, hreleased]
  released id hid := by
    obtain ⟨-, hgiven, hreleased⟩ := h.handles id
    exact hgiven.2 (hlab.released id (hreleased.1 hid))
  ended id pid o hended := by
    rcases h.ended_back hended with hended | ⟨-, system, -, rfl⟩
    · obtain ⟨new, hnew⟩ := Change.journal (.tended (h.mono fun _ _ => trivial))
      rw [hnew]
      exact List.mem_append_left _ (hlab.ended id pid o hended)
    · exact List.mem_append_right _ (List.mem_singleton_self _)

/-- The next handle has never been given out. -/
theorem Orderly.next (hlab : Orderly lab) : ¬Given lab.journal ⟨lab.supervisor.nextId⟩ :=
  fun h => absurd (hlab.fresh _ h) (Nat.lt_irrefl _)

theorem Orderly.proc?_next (hlab : Orderly lab) :
    lab.supervisor.proc? ⟨lab.supervisor.nextId⟩ = none := by
  rw [← Option.not_isSome_iff_eq_none, hlab.held]
  exact fun h => hlab.next h.1

/-- After a launch the new handle has the new process, and every other one what it had. -/
theorem Launches.proc? (h : Launches host spec id lab lab') (hlab : Orderly lab) :
    lab.supervisor.proc? id = none ∧
    (∃ p, lab'.supervisor.proc? id = some p ∧ p.outcome = none) ∧
    ∀ other, other ≠ id → lab'.supervisor.proc? other = lab.supervisor.proc? other := by
  obtain ⟨capture, between, pid, after, -, -, rfl, rfl⟩ := h
  exact ⟨hlab.proc?_next, ⟨_, Supervisor.proc?_enroll_self hlab.proc?_next, rfl⟩,
    fun other hother => Supervisor.proc?_enroll_of_ne hother⟩

/-- What was held stays held under its handle. -/
theorem Launches.kept (h : Launches host spec id lab lab') (hlab : Orderly lab) (other : ProcessId)
    (p : Supervised) (hp : lab.supervisor.proc? other = some p) :
    lab'.supervisor.proc? other = some p := by
  obtain ⟨hnone, -, hothers⟩ := h.proc? hlab
  refine (hothers other fun heq => ?_).trans hp
  rw [heq, hnone] at hp
  cases hp

theorem Launches.nextId (h : Launches host spec id lab lab') :
    id.number = lab.supervisor.nextId ∧ lab'.supervisor.nextId = lab.supervisor.nextId + 1 := by
  obtain ⟨capture, between, pid, after, -, -, rfl, rfl⟩ := h
  exact ⟨rfl, rfl⟩

/-- The handle has never been given out before. -/
theorem Launches.not_given (h : Launches host spec id lab lab') (hlab : Orderly lab) :
    ¬Given lab.journal id := by
  intro hgiven
  have hlt := hlab.fresh id hgiven
  rw [h.nextId.1] at hlt
  exact Nat.lt_irrefl _ hlt

theorem Launches.given (h : Launches host spec id lab lab') (other : ProcessId) :
    Given lab'.journal other ↔ other = id ∨ Given lab.journal other := by
  obtain ⟨capture, between, pid, after, -, -, -, rfl⟩ := h
  simp only [Given, List.mem_append, List.mem_singleton, Event.launched.injEq]
  refine ⟨fun ⟨spec', h⟩ => h.symm.imp (·.1) fun h => ⟨spec', h⟩, fun h => ?_⟩
  rcases h with h | ⟨spec', h⟩
  · exact ⟨spec, .inr ⟨h, rfl⟩⟩
  · exact ⟨spec', .inl h⟩

theorem Launches.released_iff (h : Launches host spec id lab lab') (other : ProcessId) :
    .released other ∈ lab'.journal ↔ .released other ∈ lab.journal := by
  obtain ⟨capture, between, pid, after, -, -, -, rfl⟩ := h
  simp

theorem Launches.orderly (h : Launches host spec id lab lab') (hlab : Orderly lab) :
    Orderly lab' := by
  obtain ⟨hnone, ⟨p, hp, hlive⟩, hothers⟩ := h.proc? hlab
  obtain ⟨hid, hnext⟩ := h.nextId
  refine ⟨fun other hother => ?_, fun other => ?_, fun other hother => ?_,
    fun other pid o hended => ?_⟩
  · rw [hnext]
    rcases (h.given other).1 hother with rfl | hother
    · exact Nat.lt_succ_of_le (Nat.le_of_eq hid)
    · exact Nat.lt_succ_of_lt (hlab.fresh other hother)
  · rw [InUse, h.given, h.released_iff]
    by_cases hother : other = id
    · subst hother
      have hunused := h.not_given hlab
      rw [hp]
      exact ⟨fun _ => ⟨.inl rfl, fun h => hunused (hlab.released other h)⟩, fun _ => rfl⟩
    · rw [hothers other hother, hlab.held, InUse, or_iff_right hother]
  · exact (h.given other).2 (.inr (hlab.released other ((h.released_iff other).1 hother)))
  · obtain ⟨new, hnew⟩ := Change.journal (.launched h)
    rw [hnew]
    refine List.mem_append_left _ (hlab.ended other pid o ?_)
    obtain ⟨q, hq, hqpid, ho⟩ := hended
    by_cases hother : other = id
    · subst hother
      cases hp.symm.trans hq
      rw [hlive] at ho
      cases ho
    · rw [hothers other hother] at hq
      exact ⟨q, hq, hqpid, ho⟩

theorem Releases.proc? (h : Releases host id lab lab') (other : ProcessId) :
    lab'.supervisor.proc? other = if other = id then none else lab.supervisor.proc? other := by
  obtain ⟨p, o, -, -, rfl⟩ := h
  rw [Supervisor.proc?_unlistGroup, Supervisor.proc?_forget]

theorem Releases.groups (h : Releases host id lab lab') (hheld : lab.supervisor.Holds id pid)
    (g : Nat) : g ∈ lab'.supervisor.groups ↔ g ∈ lab.supervisor.groups ∧ g ≠ pid := by
  obtain ⟨p, o, hp, -, rfl⟩ := h
  cases hheld.unique ⟨p, hp, rfl⟩
  exact Supervisor.mem_unlistGroup

theorem Releases.given (h : Releases host id lab lab') (other : ProcessId) :
    Given lab'.journal other ↔ Given lab.journal other := by
  obtain ⟨p, o, -, -, rfl⟩ := h
  simp [Given]

theorem Releases.released_iff (h : Releases host id lab lab') (other : ProcessId) :
    .released other ∈ lab'.journal ↔ .released other ∈ lab.journal ∨ other = id := by
  obtain ⟨p, o, -, -, rfl⟩ := h
  simp

theorem Releases.ended (h : Releases host id lab lab') {other : ProcessId}
    (hended : lab'.supervisor.Ended other pid o) : lab.supervisor.Ended other pid o := by
  obtain ⟨q, hq, hqpid, ho⟩ := hended
  rw [h.proc?] at hq
  split at hq
  · cases hq
  · exact ⟨q, hq, hqpid, ho⟩

theorem Releases.orderly (h : Releases host id lab lab') (hlab : Orderly lab) : Orderly lab' := by
  have hgiven : Given lab.journal id := by
    obtain ⟨p, o, hp, -, -⟩ := h
    exact ((hlab.held id).1 (by rw [hp]; rfl)).1
  refine ⟨fun other hother => ?_, fun other => ?_, fun other hother => ?_,
    fun other pid o hended => ?_⟩
  · have hnext : lab'.supervisor.nextId = lab.supervisor.nextId := by
      obtain ⟨p, o, -, -, rfl⟩ := h
      rfl
    rw [hnext]
    exact hlab.fresh other ((h.given other).1 hother)
  · rw [InUse, h.given, h.released_iff, h.proc?]
    split
    · next heq => simp [heq]
    · next hne => simp [hlab.held, InUse, hne]
  · refine (h.given other).2 ?_
    rcases (h.released_iff other).1 hother with hother | rfl
    · exact hlab.released other hother
    · exact hgiven
  · obtain ⟨new, hnew⟩ := Change.journal (.released h)
    rw [hnew]
    exact List.mem_append_left _ (hlab.ended other pid o (h.ended hended))

theorem Change.orderly (h : Change host lab lab') (hlab : Orderly lab) : Orderly lab' := by
  cases h with
  | tended h => exact h.orderly hlab
  | launched h => exact h.orderly hlab
  | unlaunched h => cases h <;> exact ⟨hlab.fresh, hlab.held, hlab.released, hlab.ended⟩
  | released h => exact h.orderly hlab

/-- What has been seen of the end of a process stays as long as the handle is in use. -/
theorem Change.ended (h : Change host lab lab') (hlab : Orderly lab)
    (hended : lab.supervisor.Ended id pid o) :
    lab'.supervisor.Ended id pid o ∨ .released id ∈ lab'.journal := by
  cases h with
  | tended h => exact .inl (Tending.ended (.single h) hended)
  | launched h =>
      obtain ⟨p, hp, hrest⟩ := hended
      exact .inl ⟨p, h.kept hlab id p hp, hrest⟩
  | unlaunched h => cases h <;> exact .inl hended
  | @released other _ _ h =>
      by_cases heq : id = other
      · exact .inr ((h.released_iff id).2 (.inr heq))
      · obtain ⟨p, hp, hrest⟩ := hended
        exact .inl ⟨p, by rw [h.proc?, if_neg heq, hp], hrest⟩

/-- A process that is known to have ended was known to before, or its exit has just been seen. -/
theorem Change.ended_back (h : Change host lab lab') (hended : lab'.supervisor.Ended id pid o) :
    lab.supervisor.Ended id pid o ∨ Exits host id pid o lab lab' := by
  cases h with
  | tended h => exact h.ended_back hended
  | launched h =>
      obtain ⟨capture, between, pid', after, -, -, -, rfl⟩ := h
      obtain ⟨q, hq, hpid, ho⟩ := hended
      rw [Supervisor.proc?_enroll] at hq
      cases hp : lab.supervisor.proc? id with
      | some p =>
          rw [hp, Option.some_or] at hq
          cases hq
          exact .inl ⟨q, hp, hpid, ho⟩
      | none =>
          rw [hp, Option.none_or] at hq
          split at hq
          · cases hq
            cases ho
          · cases hq
  | unlaunched h => cases h <;> exact .inl hended
  | released h => exact .inl (h.ended hended)

theorem Evolves.orderly (h : Evolves host lab lab') (hlab : Orderly lab) : Orderly lab' := by
  induction h with
  | refl => exact hlab
  | tail _ hstep ih => exact hstep.orderly ih

end Journal

end Lab

end DeviceLab
