import DeviceLab.Proofs.Frame

/-! # Phases and moves

A run that does not fail goes through the phases in their order, and every move but a look at the
wish to cancel belongs to one of them.

* `Lifecycle.upTo`, `Lifecycle.failedIn`: where a run stands that has come to a phase without
  failing, or has failed in it.
* `Move.phase?`: the phase that a move belongs to; `Move.In`, `Move.Fits` and `Move.Before` compare
  it with another one.
* `enter_spec`: entering the next phase either succeeds, or stops the run where it stands.
* `follow_spec`, `follow_failed_spec`: the steps at the end of a run are never refused. -/

namespace DeviceLab

/-! ### The order of phases -/

/-- Where a run stands that has come to a phase without failing. -/
def Lifecycle.upTo (p : Phase) : Lifecycle :=
  { phase := p, failedFrom := none, history := Phase.all.take (p.rank + 1) }

/-- Where a run stands that has failed in a phase. -/
def Lifecycle.failedIn (p : Phase) : Lifecycle :=
  { phase := .failed, failedFrom := some p, history := (upTo p).history ++ [.failed] }

theorem Lifecycle.transition_upTo {p target : Phase} (h : p.next = some target) :
    (upTo p).transition target = .ok (upTo target) := by
  cases p <;> cases h <;> rfl

theorem Lifecycle.transition_failed {p : Phase} (h : p.rank ≤ Phase.devicesStopped.rank) :
    (upTo p).transition .failed = .ok (failedIn p) := by
  cases p with
  | done => exact absurd h (by decide)
  | failed => exact absurd h (by decide)
  | _ => rfl

/-- A phase is in the history of a run exactly when the run has come that far. -/
theorem Lifecycle.mem_history_upTo {p q : Phase} : q ∈ (upTo p).history ↔ q.rank ≤ p.rank := by
  cases p <;> cases q <;> decide

theorem Lifecycle.mem_history_failedIn {p q : Phase} (hq : q ≠ .failed) :
    q ∈ (failedIn p).history ↔ q.rank ≤ p.rank := by
  rw [failedIn, List.mem_append, mem_history_upTo, or_iff_left (by simpa using hq)]

/-! ### The phase of a move -/

/-- The phase in which a run asks for a step. -/
def CallKind.phase : CallKind → Phase
  | .acquire => .acquiringDevices
  | .launch | .redirect | .abortStart | .checkHealth => .devicesStarting
  | .startLogCapture => .devicesHealthy
  | .install => .artifactInstalling
  | .collectDiagnostics => .suitesRunning
  | .teardown => .devicesStopped

namespace Move

/-- The phase that a move belongs to; a look and the entrance to a phase belong to none. -/
def phase? : Move → Option Phase
  | .looked _ | .entered _ => none
  | .called c => some c.kind.phase
  | .attempted _ => some .devicesStarting
  | .launched .. | .refused .. | .polled | .ended .. | .lost .. | .misstep .. | .cancelled .. =>
    some .suitesRunning

/-- The move belongs to a phase. -/
def In (p : Phase) (m : Move) : Prop := m.phase? = some p

/-- The move belongs to a phase, or to none. -/
def Fits (p : Phase) (m : Move) : Prop := ∀ q, m.phase? = some q → q = p

/-- The move belongs to none of the phases from a place in the order on. -/
def Before (rank : Nat) (m : Move) : Prop := ∀ q, m.phase? = some q → q.rank < rank

theorem In.fits {p : Phase} {m : Move} (h : m.In p) : m.Fits p := by
  intro q hq
  rw [h] at hq
  exact (Option.some.inj hq).symm

theorem in_call {p : Phase} {c : BackendCall} (h : c.kind.phase = p) : (called c).In p :=
  congrArg some h

theorem fits_looked (p : Phase) (b : Bool) : (looked b).Fits p := nofun

theorem fits_call {p : Phase} {c : BackendCall} (h : c.kind.phase = p) : (called c).Fits p := by
  intro q hq
  cases hq
  exact h

theorem Fits.before {p : Phase} {m : Move} {n : Nat} (h : m.Fits p) (hn : p.rank < n) :
    m.Before n := by
  intro q hq
  rw [h q hq]
  exact hn

theorem Before.mono {m : Move} {n k : Nat} (h : m.Before n) (hnk : n ≤ k) : m.Before k :=
  fun q hq => Nat.lt_of_lt_of_le (h q hq) hnk

theorem Before.not_in {p : Phase} {m : Move} {n : Nat} (h : m.Before n) (hn : n ≤ p.rank) :
    ¬m.In p :=
  fun hphase => absurd (h p hphase) (Nat.not_lt_of_le hn)

end Move

namespace Run

variable {σ β κ α : Type} {kept : Device → κ} {s : Setup σ β} {I : Run σ β → Prop}

/-- A statement about a run that does not depend on the phase it is in, nor on looks. -/
structure Steady (kept : Device → κ) (I : Run σ β → Prop) : Prop where
  robust : Robust kept (fun m => m.phase? = none) I
  machine : ∀ r l, I r → I { r with machine := l }

theorem Steady.and {J : Run σ β → Prop} (hI : Steady kept I) (hJ : Steady kept J) :
    Steady kept fun r => I r ∧ J r :=
  ⟨fun r r' h hadds => ⟨hI.robust r r' h.1 hadds, hJ.robust r r' h.2 hadds⟩,
    fun r l h => ⟨hI.machine r l h.1, hJ.machine r l h.2⟩⟩

/-- The first part of the moves decides whether a statement on all of them holds. -/
theorem steady_moves {p : Move → Prop} (hp : ∀ m, m.phase? = none → p m) :
    Steady kept fun r : Run σ β => ∀ m ∈ r.moves.toList, p m := by
  refine ⟨fun r r' h hadds m hm => ?_, fun _ _ h => h⟩
  obtain ⟨new, hnew, hnone⟩ := hadds.moves
  rw [hnew] at hm
  rcases List.mem_append.1 hm with hm | hm
  · exact h m hm
  · exact hp m (hnone m hm)

theorem Steady.entered (hI : Steady kept I) {r : Run σ β} (hr : I r) (l : Lifecycle)
    (target : Phase) :
    I { r with machine := l, moves := r.moves.push (.entered target) } :=
  hI.machine _ l (hI.robust r _ hr (adds_move r rfl))

/-- A run that is cancelled stops where it stands. -/
theorem stopCancelled_spec {P : Run σ β → Prop} {Q : α → Run σ β → Prop} :
    Ends P (stopCancelled : Running σ β α) Q
      fun stop r => (∃ outcome, stop = .phase outcome) ∧ P r :=
  .bind (.get fun _ hr => hr) fun _ => .throw fun _ hr => ⟨⟨_, rfl⟩, hr⟩

/-- A phase is entered after the one before it, unless the run is cancelled. -/
theorem enter_spec (hI : Steady kept I) {p target : Phase} (hnext : p.next = some target) :
    Ends (fun r => r.machine = .upTo p ∧ I r) (enter s target)
      (fun _ r => r.machine = .upTo target ∧ I r)
      fun stop r => (∃ outcome, stop = .phase outcome) ∧ r.machine = .upTo p ∧ I r := by
  have hrobust : Robust kept (fun m => m.phase? = none)
      fun r : Run σ β => r.machine = .upTo p ∧ I r :=
    fun r r' h hadds => ⟨hadds.machine.trans h.1, hI.robust r r' h.2 hadds⟩
  refine .bind (.lift (look_keeps hrobust s.host fun _ => rfl)) fun cancelled => ?_
  refine .ite (fun _ => .bind stopCancelled_spec fun _ => .absurd) fun _ => ?_
  refine .bind (Q := fun run r => run.machine = .upTo p ∧ r.machine = .upTo p ∧ I r)
    (.get fun r hr => ⟨hr.1, hr⟩) fun run => ?_
  dsimp only
  split
  · next l hl =>
      refine .modify fun r hr => ?_
      rw [hr.1, Lifecycle.transition_upTo hnext] at hl
      cases hl
      exact ⟨rfl, hI.entered hr.2.2 _ target⟩
  · next e he =>
      refine .throw fun r hr => ?_
      rw [hr.1, Lifecycle.transition_upTo hnext] at he
      cases he

/-- Whether a phase is entered or the run stops, what does not depend on the phase stays true. -/
theorem enter_keeps (hI : Steady kept I) (target : Phase) :
    Ends I (enter s target) (fun _ => I) fun _ => I := by
  refine .bind (.lift (look_keeps hI.robust s.host fun _ => rfl)) fun cancelled => ?_
  refine .ite (fun _ => .bind (stopCancelled_spec.weaken (fun _ _ hr => hr) fun _ _ hr => hr.2)
    fun _ => .absurd) fun _ => ?_
  refine .bind (Q := fun _ => I) (.get fun _ hr => hr) fun run => ?_
  dsimp only
  split
  · exact .modify fun r hr => hI.entered hr _ target
  · exact .throw fun _ hr => hr

/-- A statement about a run that the entrance into a phase after the suites leaves true. -/
def Abiding (I : Run σ β → Prop) : Prop :=
  ∀ r l target, Phase.suitesRunning.rank < target.rank → I r →
    I { r with machine := l, moves := r.moves.push (.entered target) }

theorem Steady.abiding (hI : Steady kept I) : Abiding I :=
  fun _ l target _ hr => hI.entered hr l target

theorem follow_keeps (hI : Abiding I) {target : Phase}
    (htarget : Phase.suitesRunning.rank < target.rank) :
    Leads I (follow target : StateM (Run σ β) Unit) fun _ => I := by
  refine .modify fun r hr => ?_
  split
  · exact hI r _ target htarget hr
  · exact hr

/-- A run that has not failed goes on to the next phase. -/
theorem follow_spec (hI : Steady kept I) {p target : Phase} (hnext : p.next = some target) :
    Leads (fun r => r.machine = .upTo p ∧ I r) (follow target : StateM (Run σ β) Unit)
      fun _ r => r.machine = .upTo target ∧ I r := by
  refine .modify fun r hr => ?_
  rw [hr.1, Lifecycle.transition_upTo hnext]
  exact ⟨rfl, hI.entered hr.2 _ target⟩

/-- A run that has not ended can fail. -/
theorem follow_failed_spec (hI : Steady kept I) {p : Phase}
    (hp : p.rank ≤ Phase.devicesStopped.rank) :
    Leads (fun r => r.machine = .upTo p ∧ I r) (follow .failed : StateM (Run σ β) Unit)
      fun _ r => r.machine = .failedIn p ∧ I r := by
  refine .modify fun r hr => ?_
  rw [hr.1, Lifecycle.transition_failed hp]
  exact ⟨rfl, hI.entered hr.2 _ .failed⟩

end Run

end DeviceLab
