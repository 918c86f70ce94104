import DeviceLab.Host.Basic
import DeviceLab.Proofs.Requests
import DeviceLab.Proofs.Summing

/-! # Children and their numbers

In general nothing is assumed of a host.  Here it is said what systems do about the numbers of
processes: a child keeps its number until someone has been told how it ended, and no other child
gets it before; afterwards it may be given again.

* `Host.Reaps`: a system that does so.
* `Bonded`: the processes that have not been seen to exit are children, each with a number of its
  own.  On such a system this holds of a lab in which nothing runs, and every change keeps it.
* `Sample.reusingPids`: a small system that gives numbers again. -/

namespace DeviceLab

variable {σ : Type} {host : Host σ}

/-- Some numbers belong to the children whose end nobody has been told of. -/
structure Host.Reaps (host : Host σ) (children : σ → Nat → Prop) : Prop where
  plain : ∀ {α : Type} {operation : StateM σ α}, host.Plain operation →
    ∀ system, children (operation.run system).2 = children system
  captured : ∀ dir system,
    children ((host.createCapture dir).run.run system).2 = children system
  removed : ∀ path system, children ((host.removeFile path).run.run system).2 = children system
  /-- A new child gets a number that is free. -/
  spawned : ∀ {spec capture pid system system'},
    (host.spawn spec capture).run.run system = (.ok pid, system') →
      ¬children system pid ∧ ∀ p, children system' p ↔ p = pid ∨ children system p
  unspawned : ∀ {spec capture cause system system'},
    (host.spawn spec capture).run.run system = (.error cause, system') →
      children system' = children system
  hidden : ∀ {pid system system'}, host.Hides pid system system' →
    children system' = children system
  /-- Once the end of a child has been told, its number is free. -/
  told : ∀ {pid o system system'}, children system pid → host.Tells pid o system system' →
    ∀ p, children system' p ↔ children system p ∧ p ≠ pid

namespace Lab

/-- The processes that have not been seen to exit are children, each with a number of its own. -/
structure Bonded (children : σ → Nat → Prop) (lab : Lab σ) : Prop where
  child : ∀ {id pid}, lab.supervisor.Live id pid → children lab.system pid
  sole : ∀ {id other pid}, lab.supervisor.Live id pid → lab.supervisor.Live other pid → id = other

section Change

variable {children : σ → Nat → Prop} {P : ProcessId → Prop} {lab lab' : Lab σ} {spec : LaunchSpec}
  {id : ProcessId}

theorem Bonded.of_fresh (hprocs : lab.supervisor.procs = []) : Bonded children lab := by
  have hnone : ∀ id pid, ¬lab.supervisor.Live id pid := fun id pid h =>
    h.holds.ne_none (Supervisor.procs_eq_nil.1 hprocs id)
  exact ⟨fun h => absurd h (hnone _ _), fun h => absurd h (hnone _ _)⟩

/-- No process comes to life, and no number is given or taken. -/
theorem Bonded.of_live (hlab : Bonded children lab)
    (hlive : ∀ id pid, lab'.supervisor.Live id pid → lab.supervisor.Live id pid)
    (hsystem : children lab'.system = children lab.system) : Bonded children lab' where
  child h := by
    rw [hsystem]
    exact hlab.child (hlive _ _ h)
  sole h h' := hlab.sole (hlive _ _ h) (hlive _ _ h')

theorem Tends.bonded (h : Tends host P lab lab') (hhost : host.Reaps children)
    (hlab : Bonded children lab) : Bonded children lab' := by
  have hlive : ∀ id pid, lab'.supervisor.Live id pid → lab.supervisor.Live id pid :=
    fun id pid => Tending.live (.single h)
  cases h with
  | turned h => exact hlab.of_live hlive (hhost.plain h _)
  | noted h => exact hlab.of_live hlive rfl
  | looked hid hliving h => exact hlab.of_live hlive (hhost.hidden h)
  | unlisted hid hended => exact hlab.of_live hlive rfl
  | spared hid => exact hlab.of_live hlive rfl
  | @exited _ id pid o hid h =>
      have hended : lab'.supervisor.Ended id pid o := h.ended
      obtain ⟨hliving, system, htells, rfl⟩ := h
      refine ⟨fun {other p} hother => ?_, fun h h' => hlab.sole (hlive _ _ h) (hlive _ _ h')⟩
      refine (hhost.told (hlab.child hliving) htells p).2 ⟨hlab.child (hlive _ _ hother), ?_⟩
      rintro rfl
      cases hlab.sole hliving (hlive _ _ hother)
      exact hended.not_live hother

/-- A new process gets a number that no living process has. -/
theorem Launches.bonded (h : Launches host spec id lab lab') (hhost : host.Reaps children)
    (horder : Orderly lab) (hlab : Bonded children lab) : Bonded children lab' := by
  obtain ⟨-, -, hothers⟩ := h.proc? horder
  obtain ⟨capture, between, pid, after, hcapture, hspawn, rfl, rfl⟩ := h
  have hsame : children between = children lab.system := by
    have hcaptured := hhost.captured lab.supervisor.captureDir lab.system
    rwa [hcapture] at hcaptured
  obtain ⟨hfree, hchildren⟩ := hhost.spawned hspawn
  rw [hsame] at hfree
  let new : Supervised := { label := spec.label, pid, capture, strayPattern := spec.strayPattern }
  -- a living process is the new one, or was alive before
  have hlive : ∀ other p, (lab.supervisor.enroll new).2.Live other p →
      other = ⟨lab.supervisor.nextId⟩ ∧ p = pid ∨
        other ≠ ⟨lab.supervisor.nextId⟩ ∧ lab.supervisor.Live other p := by
    rintro other p ⟨q, hq, hqpid, hnone⟩
    by_cases hother : other = ⟨lab.supervisor.nextId⟩
    · refine .inl ⟨hother, ?_⟩
      rw [hother, Supervisor.proc?_enroll_self horder.proc?_next] at hq
      cases hq
      exact hqpid.symm
    · rw [hothers other hother] at hq
      exact .inr ⟨hother, q, hq, hqpid, hnone⟩
  refine ⟨fun {other p} h => ?_, fun {first second p} h h' => ?_⟩
  · refine (hchildren p).2 ?_
    rcases hlive other p h with ⟨-, rfl⟩ | ⟨-, h⟩
    · exact .inl rfl
    · rw [hsame]
      exact .inr (hlab.child h)
  · rcases hlive first p h with ⟨rfl, rfl⟩ | ⟨hfirst, h⟩ <;>
      rcases hlive second p h' with ⟨hsecond, hp⟩ | ⟨hsecond, h'⟩
    · exact hsecond.symm
    · exact absurd (hlab.child h') hfree
    · rw [hp] at h
      exact absurd (hlab.child h) hfree
    · exact hlab.sole h h'

theorem Change.bonded (h : Change host lab lab') (hhost : host.Reaps children)
    (horder : Orderly lab) (hlab : Bonded children lab) : Bonded children lab' := by
  cases h with
  | tended h => exact h.bonded hhost hlab
  | launched h => exact h.bonded hhost horder hlab
  | unlaunched h =>
      cases h with
      | empty => exact hlab
      | uncaptured h =>
          have hcaptured := hhost.captured lab.supervisor.captureDir lab.system
          rw [h] at hcaptured
          exact hlab.of_live (fun _ _ h => h) hcaptured
      | unspawned hcapture hspawn =>
          have hcaptured := hhost.captured lab.supervisor.captureDir lab.system
          rw [hcapture] at hcaptured
          exact hlab.of_live (fun _ _ h => h)
            ((hhost.removed _ _).trans ((hhost.unspawned hspawn).trans hcaptured))
  | released h =>
      have hlive : ∀ other pid, lab'.supervisor.Live other pid → lab.supervisor.Live other pid := by
        rintro other pid ⟨p, hp, hpid, hnone⟩
        rw [h.proc?] at hp
        split at hp
        · cases hp
        · exact ⟨p, hp, hpid, hnone⟩
      obtain ⟨p, o, -, -, rfl⟩ := h
      exact hlab.of_live hlive (hhost.removed _ _)

theorem Evolves.bonded (h : Evolves host lab lab') (hhost : host.Reaps children)
    (horder : Orderly lab) (hlab : Bonded children lab) : Bonded children lab' := by
  induction h with
  | refl => exact hlab
  | tail hrow hstep ih => exact hstep.bonded hhost (Evolves.orderly hrow horder) ih

theorem Advances.bonded (h : Advances host lab lab') (hhost : host.Reaps children)
    (horder : Orderly lab) (hlab : Bonded children lab) : Bonded children lab' := by
  induction h with
  | refl => exact hlab
  | tail hrow hstep ih =>
      cases hstep with
      | changed h => exact h.bonded hhost (Advances.orderly hrow horder) ih
      | regrouped shared => exact ih.of_live (fun _ _ h => h) rfl

end Change

end Lab

/-! ### A small system -/

namespace Sample

/-- A disk, the children of the program and whether they have ended, and the files for output. -/
structure ChildTable where
  disk : Disk := {}
  children : List (Nat × Bool) := []
  captures : List String := []

/-- The end of a child has been told. -/
def ChildTable.reap (pid : Nat) (table : ChildTable) : ChildTable :=
  { table with children := table.children.filter fun child => child.1 != pid }

/-- A system on which programs other than emulators end at once.  A new child gets the number after
the highest one, so that a number can be given again. -/
def reusingPids : Host ChildTable :=
  { Sample.host.along ChildTable.disk fun disk table => { table with disk } with
    createCapture := fun dir => ExceptT.mk fun table =>
      let (r, disk) := (Sample.host.createCapture dir).run.run table.disk
      (r, { table with disk, captures := table.captures ++ r.toOption.toList })
    spawn := fun spec capture => ExceptT.mk fun table =>
      let pid := (table.children.map Prod.fst).foldr max 6 + 1
      let ended := decide (spec.argv ≠ Scripted.sleeper)
      let (_, disk) := (Sample.host.spawn spec capture).run.run table.disk
      (.ok pid, { table with disk, children := (pid, ended) :: table.children })
    tryWait := fun pid => ExceptT.mk fun table =>
      match table.children.find? fun child => child.1 == pid with
      | some (_, true) => (.ok (some (.exited 0)), table.reap pid)
      | some (_, false) => (.ok none, table)
      | none => (.error .notFound, table)
    wait := fun pid => ExceptT.mk fun table =>
      if pid ∈ table.children.map Prod.fst then (.ok (.signaled "SIGKILL"), table.reap pid)
      else (.error .notFound, table)
    removeFile := fun path => ExceptT.mk fun table =>
      let (r, disk) := (Sample.host.removeFile path).run.run table.disk
      (r, { table with disk, captures := table.captures.filter fun capture => capture != path }) }

theorem lt_foldr_max {p : Nat} (pids : List Nat) (h : p ∈ pids) : p < pids.foldr max 6 + 1 := by
  induction pids with
  | nil => cases h
  | cons pid rest ih =>
      rw [List.foldr_cons]
      rcases List.mem_cons.1 h with rfl | h
      · omega
      · have hrest := ih h
        omega

theorem reusingPids_plain {α : Type} {operation : StateM ChildTable α}
    (h : reusingPids.Plain operation) (n : ChildTable) :
    (operation.run n).2.children = n.children ∧ (operation.run n).2.captures = n.captures := by
  cases h <;> exact ⟨rfl, rfl⟩

/-- The numbers of the children of the small system. -/
def isChild (n : ChildTable) (pid : Nat) : Prop := pid ∈ n.children.map Prod.fst

theorem isChild_reap (n : ChildTable) (pid p : Nat) :
    isChild (n.reap pid) p ↔ isChild n p ∧ p ≠ pid := by
  simp only [isChild, ChildTable.reap, List.mem_map, List.mem_filter]
  constructor
  · rintro ⟨child, ⟨hchild, hne⟩, rfl⟩
    exact ⟨⟨child, hchild, rfl⟩, by simpa using hne⟩
  · rintro ⟨⟨child, hchild, rfl⟩, hne⟩
    exact ⟨child, ⟨hchild, by simpa using hne⟩, rfl⟩

theorem reusingPids_tryWait (pid : Nat) (n : ChildTable) :
    (reusingPids.tryWait pid).run.run n =
      match n.children.find? fun child => child.1 == pid with
      | some (_, true) => (.ok (some (.exited 0)), n.reap pid)
      | some (_, false) => (.ok none, n)
      | none => (.error .notFound, n) := rfl

theorem reusingPids_wait (pid : Nat) (n : ChildTable) :
    (reusingPids.wait pid).run.run n =
      if pid ∈ n.children.map Prod.fst then (.ok (.signaled "SIGKILL"), n.reap pid)
      else (.error .notFound, n) := rfl

theorem reusingPids_told {pid : Nat} {o : ExitOutcome} {n n' : ChildTable}
    (h : reusingPids.Tells pid o n n') : n' = n.reap pid := by
  rcases h with h | h
  · rw [reusingPids_tryWait] at h
    split at h <;> cases h
    rfl
  · rw [reusingPids_wait] at h
    split at h <;> cases h
    rfl

theorem reusingPids_hidden {pid : Nat} {n n' : ChildTable} (h : reusingPids.Hides pid n n') :
    n' = n := by
  rcases h with ⟨r, h, hr⟩ | ⟨cause, h⟩
  · rw [reusingPids_tryWait] at h
    split at h <;> cases h
    · exact absurd rfl (hr _)
    · rfl
    · rfl
  · rw [reusingPids_wait] at h
    split at h <;> cases h
    rfl

theorem reusingPids_reaps : reusingPids.Reaps isChild where
  plain h n := by
    funext pid
    rw [isChild, isChild, (reusingPids_plain h n).1]
  captured dir n := rfl
  removed path n := rfl
  spawned h := by
    cases h
    exact ⟨fun h => absurd (lt_foldr_max _ h) (Nat.lt_irrefl _),
      fun p => by simp only [isChild, List.map_cons, List.mem_cons]⟩
  unspawned h := nomatch h
  hidden h := by rw [reusingPids_hidden h]
  told _ h p := by rw [reusingPids_told h, isChild_reap]

end Sample

end DeviceLab
