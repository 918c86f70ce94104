import DeviceLab.Proofs.JournalSweeps

/-! # What is swept after a process

A process that is ended alone is swept after.  When all are ended, each pattern is swept for once:
after the first process that has it, and not after the others.  What those start before they die
is left running.

* `Lab.Rounds`: what ending a row of processes leaves in the journal (`Lab.terminateEach_marks`).
* `Lab.Rounds.sweptSince_iff`: of the processes that share a pattern, the first one is swept after.
* `Lab.Ranked`: handles tell the order in which processes are ended.
* `Lab.terminateAll_swept_iff`: which processes are swept after, in every lab that requests lead to.
* `Sample.leavingHelpers`: a small system on which something is left running. -/

namespace DeviceLab

variable {σ : Type} {host : Host σ}

open Event (marks)

namespace Lab

/-! ### Ending a row of processes -/

/-- The patterns that are not swept for any more after a process. -/
def also (swept : List String) : Option String → List String
  | none => swept
  | some pattern => if swept.contains pattern then swept else pattern :: swept

/-- What is swept for after a process, given the patterns of those before. -/
def due (swept : List String) (pattern : Option String) : Option String :=
  pattern.filter fun pattern => !swept.contains pattern

theorem mem_also {swept : List String} {pattern : Option String} {q : String} :
    q ∈ also swept pattern ↔ q ∈ swept ∨ pattern = some q := by
  cases pattern with
  | none => simp [also]
  | some pattern =>
      simp only [also, Option.some.injEq]
      split
      · next hseen =>
          have hmem : pattern ∈ swept := by simpa using hseen
          exact ⟨.inl, fun h => h.elim id fun heq => heq ▸ hmem⟩
      · rw [List.mem_cons, or_comm, eq_comm]

theorem due_eq_some {swept : List String} {pattern : Option String} {q : String} :
    due swept pattern = some q ↔ pattern = some q ∧ q ∉ swept := by
  rw [due, Option.filter_eq_some_iff]
  simp

/-- What is noted of ending a row of processes, given what is held and the patterns of those before.
The pattern of a process that could not be looked at counts as swept for all the same. -/
inductive Rounds (s : Supervisor) : List String → List ProcessId → List Event → Prop where
  | nil {swept : List String} : Rounds s swept [] []
  /-- The process has ended before, or there is none. -/
  | past {swept : List String} {id : ProcessId} {rest : List ProcessId} {left : List Event}
      (h : ∀ pid, ¬s.Live id pid) (hrest : Rounds s swept rest left) :
      Rounds s swept (id :: rest) left
  | round {swept : List String} {id : ProcessId} {rest : List ProcessId} {own left : List Event}
      {p : Supervised} (hp : s.proc? id = some p) (hlive : p.outcome = none)
      (hround : Round id (due swept p.strayPattern) own)
      (hrest : Rounds s (also swept p.strayPattern) rest left) :
      Rounds s swept (id :: rest) (own ++ left)

section Rounds

variable {s : Supervisor} {swept : List String} {ids : List ProcessId} {left : List Event}

/-- What ending a row of processes comes to, from any lab in which they are what they were. -/
def Goes (host : Host σ) (s : Supervisor) (swept : List String) (ids : List ProcessId) : Prop :=
  ∀ m, Leads (fun lab => marks lab.journal = m ∧ ∀ id ∈ ids, lab.supervisor.proc? id = s.proc? id)
    (terminateEach host swept ids)
    fun _ lab => ∃ left, Rounds s swept ids left ∧ marks lab.journal = m ++ left

/-- One process is ended with the pattern that is left to it, and then the others. -/
theorem Goes.round {lab : Lab σ} {id : ProcessId} {rest : List ProcessId} {p q : Supervised}
    (hrest : Goes host s (also swept p.strayPattern) rest) (hnew : id ∉ rest)
    (hp : s.proc? id = some p) (hlive : p.outcome = none)
    (hq : lab.supervisor.proc? id = some q) (hqlive : q.outcome = none)
    (hdue : q.strayPattern = due swept p.strayPattern)
    (hothers : ∀ other ∈ rest, lab.supervisor.proc? other = s.proc? other) :
    Leads (· = lab) (do
      match ← (terminate host id).run with
      | .ok _ => pure ()
      | .error _ => record (.terminateFailed id)
      terminateEach host (also swept p.strayPattern) rest)
      fun _ lab' => ∃ left, Rounds s swept (id :: rest) left ∧
        marks lab'.journal = marks lab.journal ++ left := by
  refine round_marks hq hqlive fun own hown => ?_
  rw [hdue] at hown
  refine (hrest (marks lab.journal ++ own)).conseq (fun lab' h => ?_)
    fun _ lab' ⟨left, hrounds, hleft⟩ => ?_
  · have hsame : ∀ other ∈ rest, lab'.supervisor.proc? other = s.proc? other := by
      intro other hother
      have hne : other ≠ id := fun heq => hnew (heq ▸ hother)
      rw [h.2 other hne, hothers other hother]
    exact ⟨h.1, hsame⟩
  · exact ⟨own ++ left, .round hp hlive hown hrounds, by rw [hleft, List.append_assoc]⟩

/-- The next process is not to be ended, and the others are. -/
theorem Goes.pass {lab : Lab σ} {id : ProcessId} {rest : List ProcessId}
    (hrest : Goes host s swept rest) (hpast : ∀ pid, ¬s.Live id pid)
    (hothers : ∀ other ∈ rest, lab.supervisor.proc? other = s.proc? other) :
    Leads (· = lab) (terminateEach host swept rest) fun _ lab' => ∃ left,
      Rounds s swept (id :: rest) left ∧ marks lab'.journal = marks lab.journal ++ left :=
  (hrest (marks lab.journal)).conseq (fun _ h => by rw [h]; exact ⟨rfl, hothers⟩)
    fun _ _ ⟨left, hrounds, hleft⟩ => ⟨left, .past hpast hrounds, hleft⟩

/-- The pattern of the next process has been swept for and is taken from it; then it is ended, and
then the others. -/
theorem Goes.spare {lab : Lab σ} {id : ProcessId} {rest : List ProcessId} {p : Supervised}
    {pattern : String} (hrest : Goes host s swept rest) (hnew : id ∉ rest)
    (hs : s.proc? id = some p) (hlive : p.outcome = none) (hp : lab.supervisor.proc? id = some p)
    (hpattern : p.strayPattern = some pattern) (hseen : swept.contains pattern = true)
    (hothers : ∀ other ∈ rest, lab.supervisor.proc? other = s.proc? other) :
    Leads (· = { lab with
        supervisor := lab.supervisor.update id fun p => { p with strayPattern := none } })
      (do
        match ← (terminate host id).run with
        | .ok _ => pure ()
        | .error _ => record (.terminateFailed id)
        terminateEach host swept rest)
      fun _ lab' => ∃ left, Rounds s swept (id :: rest) left ∧
        marks lab'.journal = marks lab.journal ++ left := by
  have hswept : also swept p.strayPattern = swept := by rw [hpattern, also, if_pos hseen]
  have hdue : none = due swept p.strayPattern := by
    rw [hpattern, due, Option.filter_some, hseen]
    rfl
  let lab₁ : Lab σ := { lab with
    supervisor := lab.supervisor.update id fun p => { p with strayPattern := none } }
  have hspared : lab₁.supervisor.proc? id = some { p with strayPattern := none } := by
    rw [Supervisor.proc?_update, if_pos rfl, hp, Option.map_some]
  have hothers₁ : ∀ other ∈ rest, lab₁.supervisor.proc? other = s.proc? other := by
    intro other hother
    have hne : other ≠ id := fun heq => hnew (heq ▸ hother)
    rw [Supervisor.proc?_update, if_neg hne, hothers other hother]
  have hgoes : Goes host s (also swept p.strayPattern) rest := by
    rw [hswept]
    exact hrest
  have hround := hgoes.round hnew hs hlive hspared hlive hdue hothers₁
  rw [hswept] at hround
  exact hround

theorem terminateEach_marks (hnodup : ids.Nodup) (swept : List String) : Goes host s swept ids := by
  induction ids generalizing swept with
  | nil => exact fun m => .pure fun _ h => ⟨[], .nil, by rw [h.1, List.append_nil]⟩
  | cons id rest ih =>
      obtain ⟨hnew, hrest⟩ := List.nodup_cons.1 hnodup
      refine fun m => .of_eq fun lab h => ?_
      obtain ⟨rfl, hsame⟩ := h
      obtain ⟨hid, hothers⟩ := List.forall_mem_cons.1 hsame
      refine .bind (Q := fun t lab' => t = lab ∧ lab' = lab) (.get fun _ h => ⟨h, h⟩)
        fun t => .of_eq fun lab' h => ?_
      obtain ⟨rfl, rfl⟩ := h
      split
      · next hnone =>
          refine (ih hrest swept).pass (fun pid ⟨p, hp, _⟩ => ?_) hothers
          rw [← hid, hnone] at hp
          cases hp
      next p hp =>
      have hps : s.proc? id = some p := hid ▸ hp
      refine .ite (fun hdone => (ih hrest swept).pass (fun pid ⟨q, hq, _, hnone⟩ => ?_) hothers)
        fun hdone => ?_
      · cases hps.symm.trans hq
        rw [hnone] at hdone
        cases hdone
      have hlive : p.outcome = none := by simpa using hdone
      have hgoes := ih hrest (also swept p.strayPattern)
      extract_lets others
      split
      · next hnone =>
          have hround := hgoes.round hnew hps hlive hp hlive (by rw [hnone]; rfl) hothers
          have hswept : also swept p.strayPattern = swept := by rw [hnone, also]
          rw [hswept] at hround
          exact hround
      next pattern hpattern =>
      refine .ite (fun hseen => ?_) fun hfresh => ?_
      · exact .bind (.modify fun _ h => by rw [h])
          fun _ => (ih hrest swept).spare hnew hps hlive hp hpattern hseen hothers
      · have hdue : p.strayPattern = due swept p.strayPattern := by
          rw [hpattern, due, Option.filter_some, if_pos (by simpa using hfresh)]
        have hround := hgoes.round hnew hps hlive hp hlive hdue hothers
        have hswept : also swept p.strayPattern = pattern :: swept := by
          rw [hpattern, also, if_neg hfresh]
        rw [hswept] at hround
        exact hround

theorem Rounds.exited (h : Rounds s swept ids left) {id : ProcessId} {o : ExitOutcome}
    (hmem : .exited id o ∈ left) : id ∈ ids := by
  induction h with
  | nil => cases hmem
  | past _ _ ih => exact List.mem_cons_of_mem _ (ih hmem)
  | round _ _ hround _ ih =>
      rcases List.mem_append.1 hmem with hmem | hmem
      · rw [hround.exited hmem]
        exact List.mem_cons_self ..
      · exact List.mem_cons_of_mem _ (ih hmem)

/-- What has been swept for is not swept for again. -/
theorem Rounds.sweeps (h : Rounds s swept ids left) {event : Event} {q : String}
    (hmem : event ∈ left) (hsweeps : event.Sweeps q) : q ≠ "" ∧ q ∉ swept := by
  induction h with
  | nil => cases hmem
  | past _ _ ih => exact ih hmem
  | round _ _ hround _ ih =>
      rcases List.mem_append.1 hmem with hmem | hmem
      · obtain ⟨hdue, hsome⟩ := hround.sweeps hmem hsweeps
        exact ⟨hsome, (due_eq_some.1 hdue).2⟩
      · obtain ⟨hsome, hnew⟩ := ih hmem
        exact ⟨hsome, fun hq => hnew (mem_also.2 (.inl hq))⟩

/-- Nobody that is ended before a process shares its pattern. -/
def First (s : Supervisor) (ids : List ProcessId) (id : ProcessId) (q : String) : Prop :=
  ∀ other sibling, [other, id].Sublist ids → s.proc? other = some sibling →
    sibling.outcome = none → sibling.strayPattern ≠ some q

theorem first_head {rest : List ProcessId} {id : ProcessId} {q : String} (hnew : id ∉ rest) :
    First s (id :: rest) id q := by
  intro other sibling hsub
  rcases List.sublist_cons_iff.1 hsub with hsub | ⟨tail, htail, hsub⟩
  · exact absurd (hsub.subset (by simp)) hnew
  · obtain ⟨-, rfl⟩ := List.cons.inj htail
    exact absurd (List.singleton_sublist.1 hsub) hnew

theorem first_cons {head id : ProcessId} {rest : List ProcessId} {q : String} (hmem : id ∈ rest) :
    First s (head :: rest) id q ↔ (∀ sibling, s.proc? head = some sibling →
      sibling.outcome = none → sibling.strayPattern ≠ some q) ∧ First s rest id q := by
  constructor
  · intro h
    have hhead : [head, id].Sublist (head :: rest) := (List.singleton_sublist.2 hmem).cons_cons head
    exact ⟨fun sibling => h head sibling hhead, fun other sibling hsub => h other sibling (hsub.cons _)⟩
  · rintro ⟨hhead, hrest⟩ other sibling hsub
    rcases List.sublist_cons_iff.1 hsub with hsub | ⟨tail, htail, -⟩
    · exact hrest other sibling hsub
    · obtain ⟨rfl, -⟩ := List.cons.inj htail
      exact hhead sibling

/-- The first process of a row is swept after unless its pattern is empty or has been swept. -/
theorem Rounds.sweptSince_head {id : ProcessId} {rest : List ProcessId} {own : List Event}
    {p : Supervised} {q : String} {o : ExitOutcome} (hround : Round id (due swept p.strayPattern) own)
    (hrounds : Rounds s (also swept p.strayPattern) rest left) (hpattern : p.strayPattern = some q)
    (ho : .exited id o ∈ own) : SweptSince (own ++ left) id q ↔ q ≠ "" ∧ q ∉ swept := by
  cases hround with
  | failed => cases ho
  | @ended o wave hwave =>
      rw [List.cons_append, sweptSince_exited]
      constructor
      · rintro ⟨event, hmem, hsweeps⟩
        rcases List.mem_append.1 hmem with hmem | hmem
        · obtain ⟨q', hdue, hsome, hsweeps'⟩ := hwave.sweeps hmem
          obtain rfl := hsweeps.unique hsweeps'
          exact ⟨hsome, (due_eq_some.1 hdue).2⟩
        · exact absurd (mem_also.2 (.inr hpattern)) (hrounds.sweeps hmem hsweeps).2
      · rintro ⟨hsome, hfresh⟩
        rw [due_eq_some.2 ⟨hpattern, hfresh⟩] at hwave
        obtain ⟨event, hmem, hsweeps⟩ := hwave.exists_mem hsome
        exact ⟨event, List.mem_append_left _ hmem, hsweeps⟩

/-- Of the processes that share a pattern, the first one is swept after, and no other one. -/
theorem Rounds.sweptSince_iff (h : Rounds s swept ids left) (hnodup : ids.Nodup) {id : ProcessId}
    {p : Supervised} {q : String} (hp : s.proc? id = some p) (hpattern : p.strayPattern = some q)
    (hexit : ∃ o, .exited id o ∈ left) :
    SweptSince left id q ↔ q ≠ "" ∧ q ∉ swept ∧ First s ids id q := by
  obtain ⟨o, ho⟩ := hexit
  induction h with
  | nil => cases ho
  | @past swept head rest left hpast hrounds ih =>
      have hhead : ∀ sibling, s.proc? head = some sibling → sibling.outcome = none →
          sibling.strayPattern ≠ some q := fun sibling hs hnone =>
        absurd ⟨sibling, hs, rfl, hnone⟩ (hpast sibling.pid)
      rw [first_cons (hrounds.exited ho), ih (List.nodup_cons.1 hnodup).2 ho]
      exact ⟨fun ⟨hsome, hfresh, hrest⟩ => ⟨hsome, hfresh, hhead, hrest⟩,
        fun ⟨hsome, hfresh, _, hrest⟩ => ⟨hsome, hfresh, hrest⟩⟩
  | @round swept head rest own left p' hp' hlive' hround hrounds ih =>
      obtain ⟨hnew, hrest⟩ := List.nodup_cons.1 hnodup
      by_cases hid : id = head
      · subst hid
        cases hp.symm.trans hp'
        have hown := (List.mem_append.1 ho).resolve_right fun ho => hnew (hrounds.exited ho)
        rw [hrounds.sweptSince_head hround hpattern hown, and_iff_left (first_head hnew)]
      · have hown (o : ExitOutcome) : .exited id o ∉ own := fun ho => hid (hround.exited ho)
        have hleft := (List.mem_append.1 ho).resolve_left (hown o)
        rw [sweptSince_append hown, ih hrest hleft, first_cons (hrounds.exited hleft), mem_also]
        have hhead : p'.strayPattern ≠ some q ↔ ∀ sibling, s.proc? head = some sibling →
            sibling.outcome = none → sibling.strayPattern ≠ some q := by
          rw [hp']
          simp [hlive']
        rw [← hhead, not_or, and_assoc]

end Rounds

/-! ### Every lab that requests lead to -/

section Ranked

variable {lab lab' : Lab σ} {P : ProcessId → Prop} {id : ProcessId}

/-- Processes are held in the order in which they were launched, and each has the pattern that it
was launched with unless it is not to be swept after any more. -/
structure Ranked (lab : Lab σ) : Prop where
  ascending : lab.supervisor.ids.Pairwise fun id other => id.number < other.number
  launched : ∀ id p, lab.supervisor.proc? id = some p → ∃ spec, .launched id spec ∈ lab.journal ∧
    (p.strayPattern = spec.strayPattern ∨ p.strayPattern = none)

theorem Ranked.of_fresh (hprocs : lab.supervisor.procs = []) : Ranked lab := by
  refine ⟨?_, fun id p hp => ?_⟩
  · rw [Supervisor.ids, hprocs]
    exact List.Pairwise.nil
  · rw [Supervisor.procs_eq_nil.1 hprocs id] at hp
    cases hp

theorem ids_update (s : Supervisor) (id : ProcessId) (change : Supervised → Supervised) :
    (s.update id change).ids = s.ids := by
  unfold Supervisor.ids Supervisor.update
  rw [List.map_map]
  refine List.map_congr_left fun entry _ => ?_
  obtain ⟨other, p⟩ := entry
  dsimp only [Function.comp]
  split <;> rfl

/-- Handles go as they are, and what is still held keeps its pattern or loses it. -/
theorem Ranked.of_kept (hlab : Ranked lab)
    (hids : lab'.supervisor.ids.Sublist lab.supervisor.ids)
    (hprocs : ∀ id p', lab'.supervisor.proc? id = some p' → ∃ p, lab.supervisor.proc? id = some p ∧
      (p'.strayPattern = p.strayPattern ∨ p'.strayPattern = none))
    (hjournal : ∀ event ∈ lab.journal, event ∈ lab'.journal) : Ranked lab' := by
  refine ⟨hlab.ascending.sublist hids, fun id p' hp' => ?_⟩
  obtain ⟨p, hp, hpattern⟩ := hprocs id p' hp'
  obtain ⟨spec, hspec, hgiven⟩ := hlab.launched id p hp
  refine ⟨spec, hjournal _ hspec, ?_⟩
  rcases hpattern with hpattern | hpattern
  · rwa [hpattern]
  · exact .inr hpattern

theorem Tends.ranked (h : Tends host P lab lab') (hlab : Ranked lab) : Ranked lab' := by
  have hupdate (other : ProcessId) {change : Supervised → Supervised}
      (hchange : ∀ p, (change p).strayPattern = p.strayPattern ∨ (change p).strayPattern = none)
      (id : ProcessId) (p' : Supervised)
      (hp' : (lab.supervisor.update other change).proc? id = some p') :
      ∃ p, lab.supervisor.proc? id = some p ∧
        (p'.strayPattern = p.strayPattern ∨ p'.strayPattern = none) := by
    rw [Supervisor.proc?_update] at hp'
    split at hp'
    · obtain ⟨p, hp, rfl⟩ := Option.map_eq_some_iff.1 hp'
      exact ⟨p, hp, hchange p⟩
    · exact ⟨p', hp', .inl rfl⟩
  cases h with
  | exited _ h =>
      obtain ⟨-, system, -, rfl⟩ := h
      exact hlab.of_kept (by rw [ids_update]) (hupdate _ fun _ => .inl rfl)
        fun _ => List.mem_append_left _
  | spared =>
      exact hlab.of_kept (by rw [ids_update]) (hupdate _ fun _ => .inr rfl) fun _ h => h
  | noted =>
      exact hlab.of_kept (.refl _) (fun _ p hp => ⟨p, hp, .inl rfl⟩) fun _ => List.mem_append_left _
  | _ => exact hlab.of_kept (.refl _) (fun _ p hp => ⟨p, hp, .inl rfl⟩) fun _ h => h

theorem Change.ranked (h : Change host lab lab') (horder : Orderly lab) (hlab : Ranked lab) :
    Ranked lab' := by
  cases h with
  | tended h => exact h.ranked hlab
  | @launched spec id _ _ h =>
      obtain ⟨-, -, hothers⟩ := h.proc? horder
      obtain ⟨capture, between, pid, after, -, -, rfl, rfl⟩ := h
      refine ⟨?_, fun other p hp => ?_⟩
      · -- the new handle is above all that are in use
        have hbelow : ∀ id ∈ lab.supervisor.ids, id.number < lab.supervisor.nextId := fun id hid =>
          horder.fresh id ((horder.held id).1 (Supervisor.mem_ids.1 hid)).1
        unfold Supervisor.ids Supervisor.enroll
        rw [List.map_append, List.pairwise_append]
        refine ⟨hlab.ascending, List.pairwise_singleton .., fun id hid other hother => ?_⟩
        obtain rfl := List.mem_singleton.1 hother
        exact hbelow id hid
      · by_cases hother : other = ⟨lab.supervisor.nextId⟩
        · subst hother
          rw [Supervisor.proc?_enroll_self horder.proc?_next] at hp
          cases hp
          exact ⟨spec, List.mem_append_right _ (List.mem_singleton_self _), .inl rfl⟩
        · rw [hothers other hother] at hp
          obtain ⟨spec, hspec, hpattern⟩ := hlab.launched other p hp
          exact ⟨spec, List.mem_append_left _ hspec, hpattern⟩
  | unlaunched h =>
      refine hlab.of_kept (by rw [h.supervisor]) (fun _ p hp => ⟨p, ?_, .inl rfl⟩) ?_
      · rwa [h.supervisor] at hp
      · cases h <;> exact fun _ h => h
  | @released id _ _ h =>
      obtain ⟨p, o, -, -, rfl⟩ := h
      refine hlab.of_kept (List.filter_sublist.map _) (fun other q hq => ⟨q, ?_, .inl rfl⟩)
        fun _ => List.mem_append_left _
      rw [Supervisor.proc?_unlistGroup, Supervisor.proc?_forget] at hq
      split at hq
      · cases hq
      · exact hq

theorem Advances.ranked (h : Advances host lab lab') (horder : Orderly lab) (hlab : Ranked lab) :
    Ranked lab' := by
  induction h with
  | refl => exact hlab
  | tail hrow hstep ih =>
      cases hstep with
      | changed h => exact h.ranked (Advances.orderly hrow horder) ih
      | regrouped shared => exact ⟨ih.ascending, ih.launched⟩

theorem Ranked.nodup (hlab : Ranked lab) : lab.supervisor.ids.Nodup := by
  refine List.Pairwise.imp (fun hlt heq => ?_) hlab.ascending
  rw [heq] at hlt
  exact Nat.lt_irrefl _ hlt

/-- Which of two processes is ended first, by their handles. -/
theorem Ranked.sublist_iff (hlab : Ranked lab) {other : ProcessId}
    (hother : other ∈ lab.supervisor.ids) (hid : id ∈ lab.supervisor.ids) :
    [other, id].Sublist lab.supervisor.ids ↔ other.number < id.number := by
  constructor
  · intro hsub
    have hpair : [other, id].Pairwise fun id other => id.number < other.number :=
      hlab.ascending.sublist hsub
    exact List.rel_of_pairwise_cons hpair (List.mem_singleton_self _)
  · intro hlt
    obtain ⟨before, after, hsplit⟩ := List.append_of_mem hid
    have hascending := hlab.ascending
    rw [hsplit, List.pairwise_append] at hascending
    rw [hsplit] at hother ⊢
    rcases List.mem_append.1 hother with hbefore | hafter
    · exact (List.singleton_sublist.2 hbefore).append
        (List.singleton_sublist.2 (List.mem_cons_self ..))
    · rcases List.mem_cons.1 hafter with rfl | hafter
      · exact absurd hlt (Nat.lt_irrefl _)
      · have hgt := List.rel_of_pairwise_cons hascending.2.1 hafter
        exact absurd hlt (Nat.lt_asymm hgt)

theorem Ranked.first_iff (hlab : Ranked lab) (hid : id ∈ lab.supervisor.ids) {q : String} :
    First lab.supervisor lab.supervisor.ids id q ↔
      ∀ other sibling, lab.supervisor.proc? other = some sibling → sibling.outcome = none →
        sibling.strayPattern = some q → id.number ≤ other.number := by
  have hmem {other : ProcessId} {sibling : Supervised}
      (h : lab.supervisor.proc? other = some sibling) : other ∈ lab.supervisor.ids :=
    Supervisor.mem_ids.2 (h ▸ rfl)
  constructor
  · intro hfirst other sibling hsibling hlive hpattern
    by_contra hgt
    have hsub := (hlab.sublist_iff (hmem hsibling) hid).2 (Nat.lt_of_not_le hgt)
    exact hfirst other sibling hsub hsibling hlive hpattern
  · intro hleast other sibling hsub hsibling hlive hpattern
    have hlt := (hlab.sublist_iff (hmem hsibling) hid).1 hsub
    exact Nat.not_le.2 hlt (hleast other sibling hsibling hlive hpattern)

end Ranked

end Lab

/-! ### A small system with helpers -/

namespace Sample

open Text

/-- A small system, and processes that its children have started outside of their groups. -/
structure HelperTable where
  table : ChildTable := {}
  helpers : List Nat := []

/-- A child that is to end starts a helper before it does. -/
def HelperTable.fork (pid : Nat) (all : HelperTable) : HelperTable where
  table := { all.table with
    children := all.table.children.map fun child => (child.1, child.2 || child.1 == pid) }
  helpers := all.helpers ++ [pid + 100]

/-- A system that lists helpers by their numbers; signals to single processes kill them. -/
def leavingHelpers : Host HelperTable :=
  { reusingPids.along HelperTable.table fun table all => { all with table } with
    signalGroup := fun pid signal all =>
      (true, if signal = .term then all.fork pid else all)
    signalProcess := fun target _ all =>
      (true, { all with helpers := all.helpers.filter fun helper => (helper : Int) ≠ target })
    listProcesses := ExceptT.mk fun all =>
      (.ok (Utf8.encode (String.join (all.helpers.map fun pid => s!"{pid} helper\n"))), all) }

/-- A program that goes on until it is told to end. -/
def worker (label : String) : LaunchSpec :=
  { label, argv := Scripted.sleeper, strayPattern := some "helper" }

/-- Two of them are launched. -/
def launches : List Request := [.launch (worker "first"), .launch (worker "second")]

def labAfter (requests : List Request) : Lab HelperTable :=
  requests.foldl (fun lab request => (Lab.exchange leavingHelpers lab request).after) { system := {} }

end Sample

namespace Lab

/-! ### The main result -/

section Sweeping

variable {start lab lab' : Lab σ} {history : List (Exchange σ)}

/-- What was added to the journal has the marks that were added. -/
theorem Grows.marks {left : List Event} (h : Grows lab lab')
    (hmarks : marks lab'.journal = marks lab.journal ++ left) :
    ∃ new, lab'.journal = lab.journal ++ new ∧ Event.marks new = left := by
  obtain ⟨new, hnew⟩ := h
  rw [hnew, Event.marks_append] at hmarks
  exact ⟨new, hnew, List.append_cancel_left hmarks⟩

theorem exited_mem_marks {new : List Event} {id : ProcessId} (h : ∃ o, .exited id o ∈ new) :
    ∃ o, .exited id o ∈ marks new := by
  obtain ⟨o, ho⟩ := h
  exact ⟨o, List.mem_filter.2 ⟨ho, rfl⟩⟩

/-- Whether a process that `terminateAll` ends is swept after.  Anything may have been asked of the
supervisor in the `history` before.  Of the living processes with one `pattern` only that with the
least handle is swept after (`SweptSince`); a later one is not, although it would be if it were
ended alone by `terminate`. -/
theorem terminateAll_swept_iff (hprocs : start.supervisor.procs = []) (hjournal : start.journal = [])
    (h : Session host start history lab) :
    (∀ id child, lab.supervisor.proc? id = some child → ∃ spec, .launched id spec ∈ lab.journal ∧
      (child.strayPattern = spec.strayPattern ∨ child.strayPattern = none)) ∧
    (∃ new, ((terminateAll host).run lab).2.journal = lab.journal ++ new ∧
      ∀ id child pattern, lab.supervisor.proc? id = some child → child.strayPattern = some pattern →
        (∃ o, .exited id o ∈ new) → (SweptSince new id pattern ↔ pattern ≠ "" ∧
          ∀ other sibling, lab.supervisor.proc? other = some sibling → sibling.outcome = none →
            sibling.strayPattern = some pattern → id.number ≤ other.number)) ∧
    ∀ id child pattern, lab.supervisor.proc? id = some child → child.outcome = none →
      child.strayPattern = some pattern →
        ∃ own, ((terminate host id).run.run lab).2.journal = lab.journal ++ own ∧
          ((∃ o, .exited id o ∈ own) → (SweptSince own id pattern ↔ pattern ≠ "")) := by
  have horder : Orderly start := .of_fresh hprocs hjournal
  have hranked : Ranked lab := h.advances.ranked horder (.of_fresh hprocs)
  refine ⟨hranked.launched, ?_, fun id child pattern hchild hlive hpattern => ?_⟩
  · have hgrows : Grows lab ((terminateAll host).run lab).2 :=
      (terminateAll_tends lab rfl).evolves.grows
    have hgoes : Goes host lab.supervisor [] lab.supervisor.ids :=
      terminateEach_marks hranked.nodup []
    obtain ⟨left, hrounds, hleft⟩ := hgoes (marks lab.journal) lab ⟨rfl, fun _ _ => rfl⟩
    obtain ⟨new, hnew, rfl⟩ := hgrows.marks hleft
    refine ⟨new, hnew, fun id child pattern hchild hpattern hexit => ?_⟩
    have hid : id ∈ lab.supervisor.ids := Supervisor.mem_ids.2 (hchild ▸ rfl)
    rw [← sweptSince_marks,
      hrounds.sweptSince_iff hranked.nodup hchild hpattern (exited_mem_marks hexit),
      hranked.first_iff hid]
    simp only [List.not_mem_nil, not_false_eq_true, true_and]
  · have hgrows : Grows lab ((terminate host id).run.run lab).2 :=
      (terminate_retains lab .refl).evolves.grows
    have hended : Leads (· = lab) (terminate host id).run _ := terminate_round hchild hlive
    obtain ⟨⟨left, hround, hleft⟩, -⟩ := hended lab rfl
    obtain ⟨own, hown, rfl⟩ := hgrows.marks hleft
    refine ⟨own, hown, fun hexit => ?_⟩
    rw [hpattern] at hround
    rw [← sweptSince_marks, hround.sweptSince_iff (exited_mem_marks hexit)]

/-- What is in a journal and was not there before is new. -/
theorem mem_new {journal journal' new : List Event} {event : Event} (h : journal' = journal ++ new)
    (hmem : event ∈ journal') (hnew : event ∉ journal) : event ∈ new := by
  rw [h] at hmem
  exact (List.mem_append.1 hmem).resolve_left hnew

/-- On the small system two programs with one pattern are launched.  When both are ended, the first
one is swept after and the second one is not; ended alone, the second one is. -/
theorem swept_iff_of_two_workers : ∃ history,
    Session Sample.leavingHelpers { system := {} } history (Sample.labAfter Sample.launches) ∧
    (∃ new, ((terminateAll Sample.leavingHelpers).run (Sample.labAfter Sample.launches)).2.journal =
        (Sample.labAfter Sample.launches).journal ++ new ∧
      SweptSince new ⟨1⟩ "helper" ∧ ¬SweptSince new ⟨2⟩ "helper") ∧
    ∃ own, ((terminate Sample.leavingHelpers ⟨2⟩).run.run (Sample.labAfter Sample.launches)).2.journal =
        (Sample.labAfter Sample.launches).journal ++ own ∧ SweptSince own ⟨2⟩ "helper" := by
  have h : Session Sample.leavingHelpers { system := {} } _ (Sample.labAfter Sample.launches) :=
    .served (.served .start (.launch (Sample.worker "first"))) (.launch (Sample.worker "second"))
  obtain ⟨-, ⟨new, hnew, hall⟩, hone⟩ := terminateAll_swept_iff rfl rfl h
  obtain ⟨own, hown, halone⟩ := hone ⟨2⟩ _ "helper" rfl rfl rfl
  have hfirst : .exited ⟨1⟩ (.exited 0) ∈ new :=
    mem_new hnew (by decide +kernel) (by decide +kernel)
  have hsecond : .exited ⟨2⟩ (.exited 0) ∈ new :=
    mem_new hnew (by decide +kernel) (by decide +kernel)
  have hlast : .exited ⟨2⟩ (.exited 0) ∈ own :=
    mem_new hown (by decide +kernel) (by decide +kernel)
  refine ⟨_, h, ⟨new, hnew, ?_, ?_⟩, own, hown, (halone ⟨_, hlast⟩).2 (by decide)⟩
  · refine (hall ⟨1⟩ _ "helper" rfl rfl ⟨_, hfirst⟩).2 ⟨by decide, fun other sibling hs _ _ => ?_⟩
    have hother : other ∈ (Sample.labAfter Sample.launches).supervisor.ids :=
      Supervisor.mem_ids.2 (hs ▸ rfl)
    have hids : (Sample.labAfter Sample.launches).supervisor.ids = [⟨1⟩, ⟨2⟩] := by decide +kernel
    rw [hids] at hother
    rcases List.mem_pair.1 hother with rfl | rfl <;> decide
  · intro hswept
    have hleast := ((hall ⟨2⟩ _ "helper" rfl rfl ⟨_, hsecond⟩).1 hswept).2 ⟨1⟩ _ rfl rfl rfl
    revert hleast
    decide

/-- There is a helper that is left running when all are ended, and none when each is ended alone. -/
theorem terminateAll_leaves_helper :
    (∃ history, Session Sample.leavingHelpers { system := {} } history
      (Sample.labAfter Sample.launches)) ∧
    (∃ child, (Sample.labAfter Sample.launches).supervisor.proc? ⟨2⟩ = some child ∧
      child.outcome = none ∧ child.strayPattern = some "helper") ∧
    (Sample.labAfter (Sample.launches ++ [Request.terminateAll])).supervisor.outcome? ⟨2⟩ =
      some (.exited 0) ∧
    ¬SweptSince (Sample.labAfter (Sample.launches ++ [Request.terminateAll])).journal ⟨2⟩ "helper" ∧
    (Sample.labAfter (Sample.launches ++ [Request.terminateAll])).system.helpers = [108] ∧
    (Sample.labAfter (Sample.launches ++ [Request.terminate ⟨1⟩, .terminate ⟨2⟩])).system.helpers =
      [] := by
  have h : Session Sample.leavingHelpers { system := {} } _ (Sample.labAfter Sample.launches) :=
    .served (.served .start (.launch (Sample.worker "first"))) (.launch (Sample.worker "second"))
  have hmarks : marks (Sample.labAfter (Sample.launches ++ [Request.terminateAll])).journal =
      [Event.exited ⟨1⟩ (.exited 0), .swept "helper"] ++ [Event.exited ⟨2⟩ (.exited 0)] := by
    decide +kernel
  refine ⟨⟨_, h⟩, ⟨_, rfl, rfl, rfl⟩, by decide +kernel, ?_, by decide +kernel, by decide +kernel⟩
  rw [← sweptSince_marks, hmarks, sweptSince_append (by simp), sweptSince_exited]
  rintro ⟨event, hmem, -⟩
  cases hmem

end Sweeping

end Lab

end DeviceLab
