import DeviceLab.Proofs.Custody

/-! # Exits and sweeps in the journal

Ending a process sweeps for its pattern once its exit has been seen.  What the journal tells of it is
found among exits and sweeps; everything else that is noted on the way is left out (`Event.marks`).

* `SweptSince`: a sweep for a pattern was made after an exit.
* `Wave`, `Round`: what is noted of a sweep, and of ending a process.
* `Lab.poll_marks`, `Lab.stop_marks`, ...: what the operations note.
* `Lab.terminate_round`: ending a process comes to a round, and the other processes stay as they
  are. -/

namespace DeviceLab

variable {σ α : Type} {host : Host σ}

open Supervisor (Holds Live Ended)

namespace Event

/-- A sweep for a pattern was made, whether or not the processes could be listed. -/
def Sweeps (pattern : String) (event : Event) : Prop :=
  event = .swept pattern ∨ event = .sweepFailed pattern

/-- An exit or a sweep. -/
def isMark : Event → Bool
  | .exited _ _ | .swept _ | .sweepFailed _ => true
  | _ => false

/-- The exits and sweeps of a journal. -/
def marks (journal : List Event) : List Event := journal.filter isMark

@[simp] theorem marks_append (journal new : List Event) :
    marks (journal ++ new) = marks journal ++ marks new :=
  List.filter_append ..

theorem Sweeps.isMark {pattern : String} {event : Event} (h : event.Sweeps pattern) :
    event.isMark = true := by
  rcases h with rfl | rfl <;> rfl

theorem Sweeps.unique {first second : String} {event : Event} (h : event.Sweeps first)
    (h' : event.Sweeps second) : first = second := by
  rcases h with rfl | rfl <;> rcases h' with h' | h' <;> cases h' <;> rfl

end Event

open Event (marks)

/-- After an exit of a process a sweep for a pattern was made. -/
def SweptSince (events : List Event) (id : ProcessId) (pattern : String) : Prop :=
  ∃ o event, event.Sweeps pattern ∧ [.exited id o, event].Sublist events

section SweptSince

variable {events earlier : List Event} {id : ProcessId} {pattern : String} {o : ExitOutcome}

theorem sweptSince_marks : SweptSince (marks events) id pattern ↔ SweptSince events id pattern := by
  constructor
  · rintro ⟨o, event, hsweeps, hsub⟩
    exact ⟨o, event, hsweeps, hsub.trans List.filter_sublist⟩
  · rintro ⟨o, event, hsweeps, hsub⟩
    have hmarks := hsub.filter Event.isMark
    rw [List.filter_cons_of_pos rfl, List.filter_cons_of_pos hsweeps.isMark] at hmarks
    exact ⟨o, event, hsweeps, hmarks⟩

/-- What came before the exit does not matter. -/
theorem sweptSince_append (h : ∀ o, .exited id o ∉ earlier) :
    SweptSince (earlier ++ events) id pattern ↔ SweptSince events id pattern := by
  constructor
  · rintro ⟨o, event, hsweeps, hsub⟩
    obtain ⟨front, back, hsplit, hfront, hback⟩ := List.sublist_append_iff.1 hsub
    cases front with
    | nil =>
        rw [List.nil_append] at hsplit
        exact ⟨o, event, hsweeps, hsplit ▸ hback⟩
    | cons first front =>
        obtain ⟨rfl, -⟩ := List.cons.inj hsplit
        exact absurd (hfront.subset (List.mem_cons_self ..)) (h o)
  · rintro ⟨o, event, hsweeps, hsub⟩
    exact ⟨o, event, hsweeps, hsub.trans (List.sublist_append_right ..)⟩

theorem sweptSince_exited :
    SweptSince (.exited id o :: events) id pattern ↔ ∃ event ∈ events, event.Sweeps pattern := by
  constructor
  · rintro ⟨o', event, hsweeps, hsub⟩
    exact ⟨event, hsub.tail.subset (List.mem_singleton_self _), hsweeps⟩
  · rintro ⟨event, hmem, hsweeps⟩
    exact ⟨o, event, hsweeps, (List.singleton_sublist.2 hmem).cons_cons _⟩

end SweptSince

/-! ### What ending a process leaves in the journal -/

/-- What is noted of a sweep: nothing without a pattern or with an empty one. -/
inductive Wave : Option String → List Event → Prop where
  | none : Wave none []
  | empty : Wave (some "") []
  | made {pattern : String} {event : Event} (hpattern : pattern ≠ "")
      (h : event.Sweeps pattern) : Wave (some pattern) [event]

theorem Wave.sweeps {pattern : Option String} {wave : List Event} {event : Event}
    (h : Wave pattern wave) (hmem : event ∈ wave) :
    ∃ q, pattern = some q ∧ q ≠ "" ∧ event.Sweeps q := by
  cases h with
  | none => cases hmem
  | empty => cases hmem
  | made hpattern hsweeps =>
      obtain rfl := List.mem_singleton.1 hmem
      exact ⟨_, rfl, hpattern, hsweeps⟩

theorem Wave.exists_mem {pattern : String} {wave : List Event} (h : Wave (some pattern) wave)
    (hpattern : pattern ≠ "") : ∃ event ∈ wave, event.Sweeps pattern := by
  cases h with
  | empty => exact absurd rfl hpattern
  | made _ hsweeps => exact ⟨_, List.mem_singleton_self _, hsweeps⟩

/-- What is noted of ending one process: nothing if it could not be looked at. -/
inductive Round (id : ProcessId) (pattern : Option String) : List Event → Prop where
  | failed : Round id pattern []
  | ended {o : ExitOutcome} {wave : List Event} (h : Wave pattern wave) :
      Round id pattern (.exited id o :: wave)

/-- Only the exit of the process itself is noted. -/
theorem Round.exited {id other : ProcessId} {pattern : Option String} {own : List Event}
    {o : ExitOutcome} (h : Round id pattern own) (hmem : .exited other o ∈ own) : other = id := by
  cases h with
  | failed => cases hmem
  | ended hwave =>
      rcases List.mem_cons.1 hmem with heq | hmem
      · cases heq
        rfl
      · obtain ⟨q, -, -, hsweeps⟩ := hwave.sweeps hmem
        rcases hsweeps with heq | heq <;> cases heq

theorem Round.sweeps {id : ProcessId} {pattern : Option String} {own : List Event} {event : Event}
    {q : String} (h : Round id pattern own) (hmem : event ∈ own) (hsweeps : event.Sweeps q) :
    pattern = some q ∧ q ≠ "" := by
  cases h with
  | failed => cases hmem
  | ended hwave =>
      rcases List.mem_cons.1 hmem with rfl | hmem
      · rcases hsweeps with heq | heq <;> cases heq
      · obtain ⟨q', hpattern, hsome, hsweeps'⟩ := hwave.sweeps hmem
        obtain rfl := hsweeps.unique hsweeps'
        exact ⟨hpattern, hsome⟩

/-- One process that is ended alone is swept after. -/
theorem Round.sweptSince_iff {id : ProcessId} {pattern : String} {own : List Event}
    (h : Round id (some pattern) own) (hexit : ∃ o, .exited id o ∈ own) :
    SweptSince own id pattern ↔ pattern ≠ "" := by
  cases h with
  | failed =>
      obtain ⟨o, ho⟩ := hexit
      cases ho
  | ended hwave =>
      rw [sweptSince_exited]
      constructor
      · rintro ⟨event, hmem, hsweeps⟩
        obtain ⟨q, hq, hsome, -⟩ := hwave.sweeps hmem
        cases hq
        exact hsome
      · exact hwave.exists_mem

namespace Lab

section Marks

variable {m : List Event} {J : Supervisor → Prop} {lab : Lab σ} {id : ProcessId} {pid : Nat}
  {p : Supervised}

/-- The exits and sweeps of a lab are known, and something is of its supervisor. -/
def Marked (m : List Event) (J : Supervisor → Prop) (lab : Lab σ) : Prop :=
  marks lab.journal = m ∧ J lab.supervisor

theorem Marked.record_mark {event : Event} (h : Marked m J lab) (hevent : event.isMark = true) :
    Marked (m ++ [event]) J { lab with journal := lab.journal ++ [event] } := by
  refine ⟨?_, h.2⟩
  rw [Event.marks_append, h.1, marks, List.filter_cons_of_pos hevent, List.filter_nil]

theorem sys_marks {operation : StateM σ α} :
    Leads (Marked m J) (sys operation : StateM (Lab σ) α) fun _ => Marked m J :=
  .modifyGet fun _ h => h

theorem record_marks {event : Event} (hevent : event.isMark = false) :
    Leads (Marked m J) (record event : StateM (Lab σ) Unit) fun _ => Marked m J := by
  refine .modify fun lab h => ⟨?_, h.2⟩
  rw [Event.marks_append, h.1, marks, List.filter_cons_of_neg (by simp [hevent]), List.filter_nil,
    List.append_nil]

theorem pause_marks (d : Duration) :
    Leads (Marked m J) (pause host d : StateM (Lab σ) Unit) fun _ => Marked m J :=
  .modify fun _ h => h

theorem signalTree_marks (pid : Nat) (signal : StopSignal) :
    Leads (Marked m J) (signalTree host pid signal) fun _ => Marked m J := by
  refine .bind sys_marks fun found => .ite (fun _ => ?_) fun _ => ?_
  · exact .pure fun _ h => h
  · exact .discard sys_marks

theorem killListed_marks (own : Nat) (found : List (Nat × String)) :
    Leads (Marked m J) (killListed host own found) fun _ => Marked m J := by
  induction found with
  | nil => exact .pure fun _ h => h
  | cons entry rest ih =>
      obtain ⟨pid, command⟩ := entry
      refine .ite (fun _ => ih) fun _ => ?_
      exact .bind (record_marks rfl) fun _ => .bind sys_marks fun _ => .bind ih fun _ =>
        .pure fun _ h => h

/-- What a sweep for a pattern leaves; one that fails is noted by the caller. -/
def Swept (m : List Event) (J : Supervisor → Prop) (pattern : String) :
    Except IoError Nat → Lab σ → Prop
  | .ok _, lab => ∃ wave, Wave (some pattern) wave ∧ Marked (m ++ wave) J lab
  | .error _, lab => pattern ≠ "" ∧ Marked m J lab

theorem sweep_marks (pattern : String) :
    Leads (Marked m J) (sweep host pattern) (Swept m J pattern) := by
  refine .ite (fun hempty => .pure fun lab h => ?_) fun hsome => .bind sys_marks fun listing => ?_
  · obtain rfl := String.isEmpty_iff.1 hempty
    exact ⟨[], .empty, by rwa [List.append_nil]⟩
  have hpattern : pattern ≠ "" := fun h => hsome (String.isEmpty_iff.2 h)
  cases listing with
  | error cause => exact .pure fun _ h => ⟨hpattern, h⟩
  | ok listing =>
      refine .bind sys_marks fun own => .bind (killListed_marks own _) fun _ =>
        .bind (Q := fun _ => Marked (m ++ [Event.swept pattern]) J) (.modify fun _ h => ?_)
          fun _ => ?_
      · exact h.record_mark rfl
      · exact .pure fun _ h => ⟨_, .made hpattern (.inl rfl), h⟩

/-- A process is swept after as its pattern says. -/
theorem sweepAfter_marks (p : Supervised) :
    Leads (Marked m J) (sweepAfter host p) fun _ lab =>
      ∃ wave, Wave p.strayPattern wave ∧ Marked (m ++ wave) J lab := by
  unfold sweepAfter
  cases p.strayPattern with
  | none => exact .pure fun _ h => ⟨[], .none, by rwa [List.append_nil]⟩
  | some pattern =>
      refine .bind (sweep_marks pattern) fun r => ?_
      cases r with
      | ok killed => exact .pure fun _ h => h
      | error cause =>
          refine .modify fun _ h => ?_
          obtain ⟨hpattern, hmarked⟩ := h
          exact ⟨_, .made hpattern (.inr rfl), hmarked.record_mark rfl⟩

/-- A process that was alive has been seen to end, or is still alive. -/
def Marked? (m : List Event) (id : ProcessId) (pid : Nat) : Option ExitOutcome → Lab σ → Prop
  | none => Marked m (Live · id pid)
  | some o => Marked (m ++ [Event.exited id o]) fun _ => True

theorem observe_marks (o : ExitOutcome) :
    Leads (Marked m J) (observe id o : StateM (Lab σ) Unit)
      fun _ => Marked (m ++ [Event.exited id o]) fun _ => True :=
  .bind (Q := fun _ => Marked m fun _ => True) (.modify fun _ h => ⟨h.1, trivial⟩)
    fun _ => .modify fun _ h => h.record_mark rfl

theorem proc_found {E : SupervisorError → Lab σ → Prop} (hp : lab.supervisor.proc? id = some p) :
    Ends (· = lab) (proc id) (fun q lab' => q = p ∧ lab' = lab) E := by
  refine .bind (Q := fun t lab' => t = lab ∧ lab' = lab) (.get fun _ h => ⟨h, h⟩)
    fun t => .of_eq fun lab' h => ?_
  obtain ⟨rfl, rfl⟩ := h
  rw [hp]
  exact .pure fun _ h => ⟨rfl, h⟩

theorem poll_marks :
    Ends (Marked m (Live · id pid)) (poll host id) (Marked? m id pid)
      fun _ => Marked m fun _ => True := by
  refine .of_eq fun lab h => ?_
  obtain ⟨hmarks, p, hp, hpid, hnone⟩ := h
  refine .bind (proc_found hp) fun q => .of_eq fun lab' h => ?_
  obtain ⟨rfl, rfl⟩ := h
  rw [hnone]
  refine .bind ((attempt_spec _ lab').weaken (fun _ _ h => h) fun e lab h => ?_) fun r =>
    .of_eq fun lab h => ?_
  · obtain ⟨cause, system, -, -, rfl⟩ := h
    exact ⟨hmarks, trivial⟩
  obtain ⟨system, -, rfl⟩ := h
  have hmarked : Marked m (Live · id pid) { lab' with system } := ⟨hmarks, q, hp, hpid, hnone⟩
  cases r with
  | none => exact .pure fun _ h => h ▸ hmarked
  | some o =>
      exact .bind (.lift ((observe_marks o).conseq (fun _ h => h ▸ hmarked) fun _ _ h => h))
        fun _ => .pure fun _ h => h

theorem awaitExit_marks (from_ : Instant) (limit : Duration) (tries : Nat) :
    Ends (Marked m (Live · id pid)) (awaitExit host id from_ limit tries) (Marked? m id pid)
      fun _ => Marked m fun _ => True := by
  induction tries with
  | zero => exact .pure fun _ h => h
  | succ tries ih =>
      refine .bind (.lift sys_marks) fun now => .ite (fun _ => .pure fun _ h => h) fun _ => ?_
      refine .bind poll_marks fun r => ?_
      cases r with
      | some o => exact .pure fun _ h => h
      | none =>
          change Ends (Marked m (Live · id pid)) _ _ _
          exact .bind (.lift (pause_marks pollStep)) fun _ => ih

/-- A process that is stopped is seen to end, and nothing is swept. -/
theorem stop_marks :
    Ends (Marked m (Live · id pid)) (stop host id pid)
      (fun _ lab => ∃ o, Marked (m ++ [Event.exited id o]) (fun _ => True) lab)
      fun _ => Marked m fun _ => True := by
  refine .bind (.lift (record_marks rfl)) fun _ => .bind (.lift (signalTree_marks pid .term))
    fun _ => .bind (Q := fun _ => Marked m (Live · id pid)) (.get fun _ h => h)
    fun t => .bind (.lift sys_marks) fun now => .bind (awaitExit_marks _ _ _) fun r => ?_
  cases r with
  | some o => exact .pure fun _ h => ⟨o, h⟩
  | none =>
      change Ends (Marked m (Live · id pid)) _ _ _
      refine .bind (.lift (record_marks rfl)) fun _ => .bind (.lift (signalTree_marks pid .kill))
        fun _ => .of_eq fun lab hmarked => ?_
      refine .bind ((attempt_spec _ lab).weaken (fun _ _ h => h) fun e lab' h => ?_)
        fun o => .of_eq fun lab' h => ?_
      · obtain ⟨cause, system, -, -, rfl⟩ := h
        exact ⟨hmarked.1, trivial⟩
      · obtain ⟨system, -, rfl⟩ := h
        have hafter : Marked m (fun _ => True) { lab with system } := ⟨hmarked.1, trivial⟩
        exact .lift ((observe_marks o).conseq (fun _ h => h ▸ hafter) fun _ _ h => ⟨o, h⟩)

/-- A process that is ended is swept after once its exit has been seen. -/
theorem terminate_marks (hp : lab.supervisor.proc? id = some p) (hlive : p.outcome = none) :
    Ends (· = lab) (terminate host id)
      (fun _ lab' => ∃ o wave, Wave p.strayPattern wave ∧
        marks lab'.journal = marks lab.journal ++ .exited id o :: wave)
      fun _ lab' => marks lab'.journal = marks lab.journal := by
  have hbefore : Marked (marks lab.journal) (Live · id p.pid) lab := ⟨rfl, p, hp, rfl, hlive⟩
  refine .bind (proc_found hp) fun q => .of_eq fun lab' h => ?_
  obtain ⟨rfl, rfl⟩ := h
  have hrest : Ends
      (fun l => ∃ o, Marked (marks lab'.journal ++ [Event.exited id o]) (fun _ => True) l)
      (do
        modifySupervisor fun s => s.unlistGroup q.pid
        sweepAfter host q
        return ((← get).supervisor.outcome? id).getD unknownOutcome : Supervising σ ExitOutcome)
      (fun _ l => ∃ o wave, Wave q.strayPattern wave ∧
        marks l.journal = marks lab'.journal ++ .exited id o :: wave)
      fun _ l => marks l.journal = marks lab'.journal := by
    refine .of_eq fun l h => ?_
    obtain ⟨o, hmarked⟩ := h
    refine .bind (Q := fun _ => Marked (marks lab'.journal ++ [Event.exited id o]) fun _ => True)
      (.modify fun _ h => ⟨h ▸ hmarked.1, trivial⟩) fun _ => .bind (.lift (sweepAfter_marks q))
      fun _ => .bind (Q := fun _ l => ∃ o wave, Wave q.strayPattern wave ∧
        marks l.journal = marks lab'.journal ++ .exited id o :: wave) (.get fun l h => ?_)
      fun t => .pure fun _ h => h
    obtain ⟨wave, hwave, hmarks, -⟩ := h
    exact ⟨o, wave, hwave, by rw [hmarks, List.append_assoc, List.singleton_append]⟩
  refine .bind (poll_marks.conseq (fun l h => by rw [h]; exact hbefore) (fun _ _ h => h)
    fun _ _ h => h.1) fun r => ?_
  cases r with
  | some o => exact hrest.conseq (fun _ h => ⟨o, h⟩) (fun _ _ h => h) fun _ _ h => h
  | none =>
      exact .bind (stop_marks.weaken (fun _ _ h => h) fun _ _ h => h.1) fun _ => hrest

/-- However ending a process comes out, those under the other handles stay what they were. -/
theorem terminate_round (hp : lab.supervisor.proc? id = some p) (hlive : p.outcome = none) :
    Leads (· = lab) (terminate host id).run fun _ lab' =>
      (∃ own, Round id p.strayPattern own ∧ marks lab'.journal = marks lab.journal ++ own) ∧
        ∀ other ≠ id, lab'.supervisor.proc? other = lab.supervisor.proc? other := by
  have hheld : Tended host (· = id) lab (Holds · id p.pid) lab := .refl ⟨p, hp, rfl⟩
  have hothers {lab' : Lab σ} (h : Tending host (· = id) lab lab') (other : ProcessId)
      (hother : other ≠ id) : lab'.supervisor.proc? other = lab.supervisor.proc? other :=
    h.proc?_eq hother
  have hmarks : Ends (· = lab) (terminate host id) _ _ := terminate_marks hp hlive
  have hboth := (hmarks.and (terminate_tends (P := (· = id)) rfl)).conseq
    (fun _ h => ⟨h, by rw [h]; exact hheld⟩) (fun _ _ h => h) fun _ _ h => h
  refine .attempt (hboth.weaken (fun _ lab' h => ?_) fun _ lab' h => ?_)
  · obtain ⟨⟨o, wave, hwave, hmarks⟩, htended, -⟩ := h
    exact ⟨⟨_, .ended hwave, hmarks⟩, hothers htended⟩
  · obtain ⟨hmarks, -, htending, -⟩ := h
    exact ⟨⟨[], .failed, by rw [hmarks, List.append_nil]⟩, hothers htending⟩

/-- A round of the loop: a process is ended, a failure is noted, and it goes on. -/
theorem round_marks {next : StateM (Lab σ) Unit} {R : Unit → Lab σ → Prop}
    (hp : lab.supervisor.proc? id = some p) (hlive : p.outcome = none)
    (hnext : ∀ own, Round id p.strayPattern own →
      Leads (fun lab' => marks lab'.journal = marks lab.journal ++ own ∧
        ∀ other ≠ id, lab'.supervisor.proc? other = lab.supervisor.proc? other) next R) :
    Leads (· = lab) (do
      match ← (terminate host id).run with
      | .ok _ => pure ()
      | .error _ => record (.terminateFailed id)
      next) R := by
  refine .bind (terminate_round hp hlive) fun r => .of_eq fun lab' h => ?_
  obtain ⟨⟨own, hown, hmarks⟩, hapart⟩ := h
  have hgo := hnext own hown
  cases r with
  | ok o => exact hgo.conseq (fun _ h => h ▸ ⟨hmarks, hapart⟩) fun _ _ h => h
  | error e =>
      refine .bind (.modify fun l h => ⟨?_, ?_⟩) fun _ => hgo
      · rw [h, Event.marks_append, hmarks]
        exact List.append_nil _
      · rw [h]
        exact hapart

end Marks

end Lab

end DeviceLab
