import DeviceLab.Proofs.RunInvariants
import DeviceLab.Proofs.Custody

/-! # What a run leaves behind

Processes are started in many places of a run and ended in others, and a device that is given up
takes its handles with it.  That nothing is forgotten does not rest on these places.  At any time
every group on the list is the one of a process that is held, every file for output that the run has
made is the one of a process that is held, and whatever is not held any more has been seen to exit.
At the end of a run everything that is still held is released, so that nothing is left.

This needs a system on which children can be waited for and files can be removed.  Otherwise the
devices and suites may do what they like, and the run may fail or be cancelled at any point.

* `Host.Clears`: a system that makes files for output and removes them.
* `Kempt`: what holds of a lab at any time of a run; `Change.kempt`: every change keeps it.
* `releaseAll_frees`, `finish_frees`: at the end of a run nothing is held.
* `Finishes.nothing_left`: the statement for every run that ends with a report. -/

namespace DeviceLab

variable {σ β α : Type} {host : Host σ}

open Supervisor (Holds Live Ended)

/-- Files for output come into being when they are asked for, and are gone when they are removed. -/
structure Host.Clears (host : Host σ) (there : σ → String → Prop) : Prop where
  plain : ∀ {α : Type} {operation : StateM σ α}, host.Plain operation →
    ∀ system f, there (operation.run system).2 f → there system f
  created : ∀ {dir r system system'},
    (host.createCapture dir).run.run system = (r, system') →
      ∀ f, there system' f → there system f ∨ r = .ok f
  spawned : ∀ {spec capture r system system'},
    (host.spawn spec capture).run.run system = (r, system') →
      ∀ f, there system' f → there system f
  looked : ∀ {pid r system system'}, (host.tryWait pid).run.run system = (r, system') →
    ∀ f, there system' f → there system f
  awaited : ∀ {pid r system system'}, (host.wait pid).run.run system = (r, system') →
    ∀ f, there system' f → there system f
  removed : ∀ path system f,
    there ((host.removeFile path).run.run system).2 f → there system f ∧ f ≠ path

/-- Children can be looked at and waited for. -/
def Host.Answers (host : Host σ) (children : σ → Nat → Prop) : Prop :=
  ∀ system pid, children system pid → ¬host.Fails pid system

namespace Lab

/-! ### At any time -/

/-- Whatever the lab has taken up since a first one is held, or has been given back in order. -/
structure Kempt (host : Host σ) (children : σ → Nat → Prop) (there : σ → String → Prop)
    (start lab : Lab σ) : Prop where
  orderly : Orderly lab
  bonded : Bonded children lab
  /-- A group on the list is the one of a process that is held. -/
  groups : ∀ g ∈ lab.supervisor.groups, ∃ id, lab.supervisor.Holds id g
  /-- A file for output was there before, or belongs to a process that is held. -/
  files : ∀ f, there lab.system f → there start.system f ∨
    ∃ id p, lab.supervisor.proc? id = some p ∧ p.capture = f
  /-- A process that was given up has been seen to exit. -/
  seen : ∀ id, .released id ∈ lab.journal →
    ∃ o, .exited id o ∈ lab.journal ∧ Seen host start id o lab

section Change

variable {children : σ → Nat → Prop} {there : σ → String → Prop} {P : ProcessId → Prop}
  {start lab lab' : Lab σ} {spec : LaunchSpec} {id : ProcessId} {o : ExitOutcome}

theorem Kempt.of_fresh (hprocs : start.supervisor.procs = []) (hgroups : start.supervisor.groups = [])
    (hjournal : start.journal = []) : Kempt host children there start start where
  orderly := .of_fresh hprocs hjournal
  bonded := .of_fresh hprocs
  groups g hg := by
    rw [hgroups] at hg
    cases hg
  files _ hf := .inl hf
  seen id hid := by
    rw [hjournal] at hid
    cases hid

theorem Seen.tail (h : Seen host start id o lab) (hstep : Advance host lab lab') :
    Seen host start id o lab' := by
  obtain ⟨pid, lab₁, lab₂, hbefore, hexits, hafter⟩ := h
  exact ⟨pid, lab₁, lab₂, hbefore, hexits, hafter.tail hstep⟩

theorem Tends.mem_groups {g : Nat} (h : Tends host P lab lab') (hg : g ∈ lab'.supervisor.groups) :
    g ∈ lab.supervisor.groups := by
  cases h with
  | exited hid h =>
      obtain ⟨-, system, -, rfl⟩ := h
      exact hg
  | unlisted hid hended => exact (Supervisor.mem_unlistGroup.1 hg).1
  | _ => exact hg

theorem Change.groups_held (h : Change host lab lab') (hlab : Orderly lab)
    (hgroups : ∀ g ∈ lab.supervisor.groups, ∃ id, lab.supervisor.Holds id g) :
    ∀ g ∈ lab'.supervisor.groups, ∃ id, lab'.supervisor.Holds id g := by
  intro g hg
  cases h with
  | tended h =>
      obtain ⟨id, hid⟩ := hgroups g (h.mem_groups hg)
      exact ⟨id, (Tending.holds (.single h)).2 hid⟩
  | launched h =>
      have hkept := h.kept hlab
      obtain ⟨capture, between, pid, after, -, -, rfl, rfl⟩ := h
      rcases Supervisor.mem_insertGroup.1 hg with rfl | hg
      · exact ⟨_, _, Supervisor.proc?_enroll_self hlab.proc?_next, rfl⟩
      · obtain ⟨id, p, hp, hpid⟩ := hgroups g hg
        exact ⟨id, p, hkept id p hp, hpid⟩
  | unlaunched h => cases h <;> exact hgroups g hg
  | released h =>
      have ⟨p, o, hp, _, _⟩ := h
      obtain ⟨hg, hne⟩ := (h.groups ⟨p, hp, rfl⟩ g).1 hg
      obtain ⟨id, q, hq, hqpid⟩ := hgroups g hg
      refine ⟨id, q, ?_, hqpid⟩
      rw [h.proc?, if_neg fun heq => ?_, hq]
      subst heq
      cases hp.symm.trans hq
      exact hne hqpid.symm

theorem Tends.files (h : Tends host P lab lab') (hhost : host.Clears there) (f : String)
    (hf : there lab'.system f) : there lab.system f := by
  cases h with
  | turned h => exact hhost.plain h _ f hf
  | looked hid hlive h =>
      rcases h with ⟨r, hrun, -⟩ | ⟨cause, hrun⟩
      · exact hhost.looked hrun f hf
      · exact hhost.awaited hrun f hf
  | exited hid h =>
      obtain ⟨-, system, hrun | hrun, rfl⟩ := h
      · exact hhost.looked hrun f hf
      · exact hhost.awaited hrun f hf
  | _ => exact hf

theorem Change.files_held (h : Change host lab lab') (hhost : host.Clears there)
    (hlab : Orderly lab)
    (hfiles : ∀ f, there lab.system f → there start.system f ∨
      ∃ id p, lab.supervisor.proc? id = some p ∧ p.capture = f) :
    ∀ f, there lab'.system f → there start.system f ∨
      ∃ id p, lab'.supervisor.proc? id = some p ∧ p.capture = f := by
  intro f hf
  cases h with
  | tended h =>
      refine (hfiles f (h.files hhost f hf)).imp_right fun ⟨id, p, hp, hcapture⟩ => ?_
      rcases h.proc? id with ⟨hnone, -⟩ | ⟨p', q, hp', hq, hfollows⟩
      · rw [hp] at hnone
        cases hnone
      · cases hp.symm.trans hp'
        exact ⟨id, q, hq, hfollows.capture.trans hcapture⟩
  | launched h =>
      have hkept := h.kept hlab
      obtain ⟨capture, between, pid, after, hcapture, hspawn, rfl, rfl⟩ := h
      rcases hhost.created hcapture f (hhost.spawned hspawn f hf) with hf | hnew
      · exact (hfiles f hf).imp_right fun ⟨id, p, hp, hcapture⟩ =>
          ⟨id, p, hkept id p hp, hcapture⟩
      · cases hnew
        exact .inr ⟨_, _, Supervisor.proc?_enroll_self hlab.proc?_next, rfl⟩
  | unlaunched h =>
      rw [h.supervisor]
      refine hfiles f ?_
      cases h with
      | empty => exact hf
      | uncaptured h => exact (hhost.created h f hf).resolve_right nofun
      | unspawned hcapture hspawn =>
          obtain ⟨hf, hne⟩ := hhost.removed _ _ f hf
          refine (hhost.created hcapture f (hhost.spawned hspawn f hf)).resolve_right
            fun hnew => ?_
          cases hnew
          exact hne rfl
  | released h =>
      have hproc := h.proc?
      obtain ⟨p, o, hp, -, rfl⟩ := h
      obtain ⟨hf, hne⟩ := hhost.removed _ _ f hf
      refine (hfiles f hf).imp_right fun ⟨id, q, hq, hcapture⟩ => ⟨id, q, ?_, hcapture⟩
      rw [hproc, if_neg fun heq => ?_, hq]
      subst heq
      cases hp.symm.trans hq
      exact hne hcapture.symm

theorem Change.seen_kept (h : Change host lab lab') (hlab : Orderly lab)
    (hrow : Advances host start lab) (hprocs : start.supervisor.procs = [])
    (hseen : ∀ id, .released id ∈ lab.journal →
      ∃ o, .exited id o ∈ lab.journal ∧ Seen host start id o lab) :
    ∀ id, .released id ∈ lab'.journal →
      ∃ o, .exited id o ∈ lab'.journal ∧ Seen host start id o lab' := by
  intro id hid
  have hstep : Advance host lab lab' := .changed h
  have hkeep : .released id ∈ lab.journal →
      ∃ o, .exited id o ∈ lab'.journal ∧ Seen host start id o lab' := fun hid => by
    obtain ⟨o, hexited, hseen⟩ := hseen id hid
    exact ⟨o, Advances.mem_journal (.single hstep) hexited, hseen.tail hstep⟩
  cases h with
  | tended h => exact hkeep ((h.handles id).2.2.1 hid)
  | launched h => exact hkeep ((h.released_iff id).1 hid)
  | unlaunched h => cases h <;> exact hkeep hid
  | released h =>
      rcases (h.released_iff id).1 hid with hid | rfl
      · exact hkeep hid
      · have ⟨p, o, hp, ho, _⟩ := h
        have hended : lab.supervisor.Ended id p.pid o := ⟨p, hp, rfl, ho⟩
        exact ⟨o, Advances.mem_journal (.single hstep) (hlab.ended id p.pid o hended),
          (Advances.seen hrow hprocs hended).tail hstep⟩

/-- Every change leaves nothing lying about. -/
theorem Evolves.kempt (h : Evolves host start lab) (hreaps : host.Reaps children)
    (hclears : host.Clears there) (hprocs : start.supervisor.procs = [])
    (hgroups : start.supervisor.groups = []) (hjournal : start.journal = []) :
    Kempt host children there start lab := by
  induction h with
  | refl => exact .of_fresh hprocs hgroups hjournal
  | tail hrow hstep ih =>
      exact
        { orderly := hstep.orderly ih.orderly
          bonded := hstep.bonded hreaps ih.orderly ih.bonded
          groups := hstep.groups_held ih.orderly ih.groups
          files := hstep.files_held hclears ih.orderly ih.files
          seen := hstep.seen_kept ih.orderly (Evolves.advances hrow) hprocs ih.seen }

/-- When nothing is held any more, nothing is left. -/
theorem Kempt.clean (h : Kempt host children there start lab)
    (hnone : ∀ id, lab.supervisor.proc? id = none) :
    lab.supervisor.procs = [] ∧ lab.supervisor.groups = [] ∧
      (∀ f, there lab.system f → there start.system f) ∧
      ∀ id, Given lab.journal id → ∃ o, .exited id o ∈ lab.journal ∧ Seen host start id o lab := by
  refine ⟨Supervisor.procs_eq_nil.2 hnone, List.eq_nil_iff_forall_not_mem.2 fun g hg => ?_,
    fun f hf => ?_, fun id hid => h.seen id ?_⟩
  · obtain ⟨id, p, hp, -⟩ := h.groups g hg
    rw [hnone id] at hp
    cases hp
  · rcases h.files f hf with hf | ⟨id, p, hp, -⟩
    · exact hf
    · rw [hnone id] at hp
      cases hp
  · refine Classical.byContradiction fun hreleased => ?_
    have hheld := (h.orderly.held id).2 ⟨hid, hreleased⟩
    rw [hnone id] at hheld
    cases hheld

/-! ### Giving a process up -/

/-- A process that is alive is a child, and can be looked at. -/
theorem Stuck.absurd (h : Stuck host P lab) (hreaps : host.Reaps children)
    (hanswers : host.Answers children) (hlab : Orderly lab) (hbonded : Bonded children lab) :
    False := by
  obtain ⟨lab₁, id, pid, -, htending, hlive, hfails⟩ := h
  exact hanswers _ _ ((Evolves.bonded htending.evolves hreaps hlab hbonded).child hlive) hfails

/-- Whatever comes of a release, the handle is free afterwards, and no new one is in use. -/
theorem release_frees (hreaps : host.Reaps children) (hanswers : host.Answers children)
    (hlab : Orderly lab) (hbonded : Bonded children lab) (id : ProcessId) :
    Leads (· = lab) (release host id).run fun _ lab' => Evolves host lab lab' ∧
      ∀ other, (lab'.supervisor.proc? other).isSome →
        other ≠ id ∧ (lab.supervisor.proc? other).isSome := by
  refine .attempt (handle_spec (fun hnone => ⟨.refl, fun other hother => ⟨?_, hother⟩⟩)
    fun pid _ => (release_spec (P := (· = id)) rfl).weaken (fun _ lab' h => ?_) fun e lab' h => ?_)
  · rintro rfl
    rw [hnone] at hother
    cases hother
  · obtain ⟨between, o, htending, -, hreleases⟩ := h
    refine ⟨htending.evolves.tail (.released hreleases), fun other hother => ?_⟩
    rw [hreleases.proc?] at hother
    split at hother
    · cases hother
    · next hne => exact ⟨hne, htending.isSome.1 hother⟩
  · exact (h.2.2.absurd hreaps hanswers hlab hbonded).elim

/-- A supervisor that holds nothing is given up without doing anything. -/
theorem close_empty (hprocs : lab.supervisor.procs = []) :
    Leads (· = lab) (close host) fun _ lab' => lab' = lab := by
  intro lab' h
  subst h
  obtain ⟨system, ⟨procs, nextId, grace, captureDir, groups⟩, journal⟩ := lab'
  cases hprocs
  rfl

/-- What concerns neither children nor output files, in any row, is a row of changes. -/
theorem plain_upholds {operation : Attempt σ α} (h : host.Plain operation.run) :
    Upholds (fun system => Evolves host start { lab with system }) operation :=
  .of_run fun system hsystem => hsystem.tail (.tended (.turned { lab with system } h))

end Change

end Lab

namespace Run

variable {s : Setup σ β} {children : σ → Nat → Prop} {there : σ → String → Prop} {start : Lab σ}
  {system : σ} {memory : β} {report : RunReport} {final : Run σ β}

/-! ### The end of a run -/

theorem write_since (path : String) (summary : RunSummary) :
    Preserves (Since s.host start)
      (onLab (Lab.sys (summary.write s.host path).run) : StateM (Run σ β) _) := by
  refine onLab_since fun lab hlab => ?_
  have hwrite : Upholds (fun system => Lab.Evolves s.host start { lab with system })
      (summary.write s.host path) := by
    refine .bind ?_ fun _ => Lab.plain_upholds (.writeFile _ _)
    cases Path.parent? path with
    | none => exact .pure
    | some dir => exact Lab.plain_upholds (.createDirectories dir)
  exact Preserves.attempt hwrite lab.system hlab

/-- Every process that is held is given up in turn. -/
theorem releaseAll_frees (hreaps : s.host.Reaps children) (hanswers : s.host.Answers children)
    (hstart : Lab.Orderly start) (hbonded : Lab.Bonded children start) :
    Leads (Since s.host start) (releaseAll s) fun _ r =>
      Since s.host start r ∧ ∀ id, r.lab.supervisor.proc? id = none := by
  have heach : ∀ ids : List ProcessId,
      Leads (fun r => Since s.host start r ∧
          ∀ id, (r.lab.supervisor.proc? id).isSome → id ∈ ids)
        (ids.forM fun id => do
          discard <| onLab (Lab.release s.host id).run : StateM (Run σ β) Unit)
        fun _ r => Since s.host start r ∧ ∀ id, r.lab.supervisor.proc? id = none := by
    intro ids
    induction ids with
    | nil =>
        refine .pure fun r h => ⟨h.1, fun id => ?_⟩
        rw [← Option.not_isSome_iff_eq_none]
        exact fun hid => nomatch h.2 id hid
    | cons id rest ih =>
        refine .bind (.discard (.modifyGet fun r h => ?_)) fun _ => ih
        obtain ⟨hsince, hids⟩ := h
        obtain ⟨hevolves, hfree⟩ := Lab.release_frees hreaps hanswers
          (Lab.Evolves.orderly hsince hstart) (Lab.Evolves.bonded hsince hreaps hstart hbonded) id
          r.lab rfl
        refine ⟨hsince.trans hevolves, fun other hother => ?_⟩
        obtain ⟨hne, hbefore⟩ := hfree other hother
        exact (List.mem_cons.1 (hids other hbefore)).resolve_left hne
  refine .bind (Q := fun run r => run = r ∧ Since s.host start r) (.get fun r h => ⟨rfl, h⟩)
    fun run => (heach _).conseq (fun r h => ?_) fun _ _ h => h
  obtain ⟨rfl, hsince⟩ := h
  exact ⟨hsince, fun id hid => Supervisor.mem_ids.2 hid⟩

/-- After a run has been cleaned up nothing is held. -/
theorem finish_frees (hreaps : s.host.Reaps children) (hanswers : s.host.Answers children)
    (hstart : Lab.Orderly start) (hbonded : Lab.Bonded children start) (summary : RunSummary) :
    Leads (Since s.host start) (finish s summary) fun _ r =>
      Since s.host start r ∧ ∀ id, r.lab.supervisor.proc? id = none := by
  refine .bind (.get fun _ h => h) fun run => ?_
  refine .bind (keepOutput_since summary) fun kept => ?_
  refine .bind (releaseAll_frees hreaps hanswers hstart hbonded) fun _ => ?_
  refine .bind (Q := fun _ r => Since s.host start r ∧ ∀ id, r.lab.supervisor.proc? id = none)
    (fun r h => ⟨write_since _ _ r h.1, h.2⟩) fun written => ?_
  split <;> exact .pure fun _ h => h

/-- When a run ends with a report its supervisor has nothing to give up any more. -/
theorem startWithin_frees (hb : s.backend.Supplied s.host) (hreaps : s.host.Reaps children)
    (hanswers : s.host.Answers children) (passes : Nat) :
    Ends (· = fresh s.plan system memory) (startWithin s passes)
      (fun report r => ∃ summary before, Sums s system memory summary before ∧
        (finish s summary).run before = (report, r) ∧
        Since s.host (fresh s.plan system memory).lab r ∧
        ∀ id, r.lab.supervisor.proc? id = none)
      fun _ _ => True := by
  let start := fresh s.plan system memory
  have hstart : Lab.Orderly start.lab := .of_fresh rfl rfl
  have hbonded : Lab.Bonded children start.lab := .of_fresh rfl
  have hupheld : s.backend.Upheld fun t => Lab.Evolves s.host start.lab t.lab :=
    hb.upholds ⟨fun _ _ ht h => ht.trans h, fun _ _ ht _ => ht, fun _ _ ht => ht⟩
  refine .bind (Q := fun summary r => Sums s system memory summary r ∧ Since s.host start.lab r)
    ?_ fun summary => .of_eq fun before h => ?_
  · rintro r rfl
    have hsince := sumUpWithin_since hupheld passes start .refl
    split
    · next summary hsum =>
        rw [hsum] at hsince
        exact ⟨⟨passes, Prod.ext hsum rfl⟩, hsince⟩
    · trivial
  obtain ⟨hsums, hsince⟩ := h
  refine .bind (Q := fun report r => (finish s summary).run before = (report, r) ∧
    Since s.host start.lab r ∧ ∀ id, r.lab.supervisor.proc? id = none) ?_
    fun report => .of_eq fun r h => ?_
  · refine .lift ?_
    rintro _ rfl
    exact ⟨rfl, finish_frees hreaps hanswers hstart hbonded summary _ hsince⟩
  obtain ⟨hfinish, hsince, hnone⟩ := h
  -- the supervisor is closed, which does nothing now
  refine .bind (Q := fun _ r' => r' = r) (.modifyGet fun r' h => ?_) fun _ => .pure fun r' h => ?_
  · subst h
    have hclose : ((Lab.close s.host).run r'.lab).2 = r'.lab :=
      Lab.close_empty (Supervisor.procs_eq_nil.2 hnone) r'.lab rfl
    change ({ r' with lab := _ } : Run σ β) = r'
    exact congrArg (fun lab => ({ r' with lab } : Run σ β)) hclose
  · subst h
    exact ⟨summary, before, hsums, hfinish, hsince, hnone⟩

/-- After a run that ends with `report`, its supervisor holds no process and lists no group, no
file for output is `there` that was not there before, and every process that was launched has been
`Seen` to exit.  This is the state in which the run has been cleaned up by `finish`, before its
supervisor is given up. -/
theorem Finishes.nothing_left (hb : s.backend.Supplied s.host) (hreaps : s.host.Reaps children)
    (hanswers : s.host.Answers children) (hclears : s.host.Clears there)
    (h : Finishes s system memory report final) :
    ∃ summary before, Sums s system memory summary before ∧
      (finish s summary).run before = (report, final) ∧
      final.lab.supervisor.procs = [] ∧ final.lab.supervisor.groups = [] ∧
      (∀ f, there final.lab.system f → there system f) ∧
      ∀ id, Lab.Given final.lab.journal id → ∃ o, .exited id o ∈ final.lab.journal ∧
        Lab.Seen s.host (fresh s.plan system memory).lab id o final.lab := by
  obtain ⟨passes, hrun⟩ := h
  have hspec := startWithin_frees hb hreaps hanswers passes (fresh s.plan system memory) rfl
  change StateT.run (startWithin s passes).run (fresh s.plan system memory) = _ at hrun
  rw [hrun] at hspec
  obtain ⟨summary, before, hsums, hfinish, hsince, hnone⟩ := hspec
  have hkempt : Lab.Kempt s.host children there (fresh s.plan system memory).lab final.lab :=
    Lab.Evolves.kempt hsince hreaps hclears rfl rfl rfl
  exact ⟨summary, before, hsums, hfinish, hkempt.clean hnone⟩

end Run

namespace Sample

theorem reusingPids_answers : reusingPids.Answers isChild := by
  rintro n pid hchild (⟨cause, h⟩ | ⟨cause, h⟩)
  · rw [reusingPids_tryWait] at h
    split at h
    · cases h
    · cases h
    · next hnone =>
        obtain ⟨child, hmem, rfl⟩ := List.mem_map.1 hchild
        exact List.find?_eq_none.1 hnone child hmem (beq_self_eq_true _)
  · have hmem : pid ∈ n.children.map Prod.fst := hchild
    rw [reusingPids_wait, if_pos hmem] at h
    cases h

theorem reusingPids_clears : reusingPids.Clears fun n f => f ∈ n.captures where
  plain h n f hf := by rwa [(reusingPids_plain h n).2] at hf
  created h f hf := by
    cases h
    exact (List.mem_append.1 hf).imp_right fun h => congrArg Except.ok (List.mem_singleton.1 h).symm
  spawned h f hf := by
    cases h
    exact hf
  looked h f hf := by
    rw [reusingPids_tryWait] at h
    split at h <;> cases h <;> exact hf
  awaited h f hf := by
    rw [reusingPids_wait] at h
    split at h <;> cases h <;> exact hf
  removed path n f hf := by
    obtain ⟨hmem, hne⟩ := List.mem_filter.1 hf
    exact ⟨hmem, by simpa using hne⟩

/-- The plan with one suite is carried out on the small system. -/
def reusingPidsSetup : Setup ChildTable FaultScript :=
  ⟨reusingPids, Scripted.backend reusingPids, (setup planned).plan⟩

end Sample

/-- On the small system the device is started twice and a suite is run, which makes three processes
with three files; nothing of them is left. -/
theorem Run.nothing_left_after_retry : ∃ report final,
    Finishes Sample.reusingPidsSetup {} Sample.redirectFailsOnce report final ∧
    final.lab.supervisor.nextId = 4 ∧
    ∃ summary before, Sums Sample.reusingPidsSetup {} Sample.redirectFailsOnce summary before ∧
      (finish Sample.reusingPidsSetup summary).run before = (report, final) ∧
      final.lab.supervisor.procs = [] ∧ final.lab.supervisor.groups = [] ∧
      (∀ f ∈ final.lab.system.captures, f ∈ ({} : Sample.ChildTable).captures) ∧
      ∀ id, Lab.Given final.lab.journal id → ∃ o, .exited id o ∈ final.lab.journal ∧
        Lab.Seen Sample.reusingPidsSetup.host
          (fresh Sample.reusingPidsSetup.plan {} Sample.redirectFailsOnce).lab id o
          final.lab := by
  obtain ⟨report, final, h, hnext⟩ := Finishes.of_run Sample.reusingPidsSetup {}
    Sample.redirectFailsOnce
    (fun _ final => final.lab.supervisor.nextId == 4) 3 (by decide +kernel)
  exact ⟨report, final, h, by simpa using hnext,
    h.nothing_left .scripted Sample.reusingPids_reaps Sample.reusingPids_answers
      Sample.reusingPids_clears⟩

end DeviceLab
