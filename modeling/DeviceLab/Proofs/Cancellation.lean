import Mathlib.Data.List.Nodup
import DeviceLab.Proofs.Reporting
import DeviceLab.Proofs.SuiteSteps

/-! # Cancelling a run

Somebody may wish at any moment that a run is cancelled; the run sees the wish when it looks.  It
looks when it enters a phase, and while it waits.  If it sees the wish it stops there, whatever it
was about to do, and fails.

* `Wished k moves`: the wish is there from the moment on when `k` moves have been made.
* `StillActive moves name attempt process`: an attempt of a suite has been launched and has not come
  to its end.
* `Calm`, `Caught`: the state of a run that has not seen the wish, and of one that has stopped
  because it has seen it.
* `Desk.Undisturbed`: the suites are run without having seen it, and `Stopped.interrupted` says what
  becomes of their attempts when they are stopped.
* `execute_caught`: the phases of every run lead to such a state.
* `startWithin_cancelled`: what follows for the report. -/

namespace DeviceLab

open Relation (ReflTransGen)

/-- The wish to cancel is there from the moment on when some number of moves have been made: every
look after that sees it, and none before. -/
def Wished (k : Nat) (moves : List Move) : Prop :=
  ∀ i cancelled, moves[i]? = some (.looked cancelled) → (cancelled = true ↔ k ≤ i)

instance (k : Nat) (moves : List Move) : Decidable (Wished k moves) :=
  decidable_of_iff ((moves.zipIdx.all fun entry => match entry.1 with
      | .looked cancelled => cancelled == decide (k ≤ entry.2)
      | _ => true) = true) <| by
    rw [List.all_eq_true]
    constructor
    · intro h i cancelled hi
      have hmem : (Move.looked cancelled, i) ∈ moves.zipIdx := List.mem_zipIdx_iff_getElem?.2 hi
      have hentry := h _ hmem
      simp only [beq_iff_eq] at hentry
      rw [hentry, decide_eq_true_eq]
    · rintro h ⟨m, i⟩ hmem
      have hi : moves[i]? = some m := List.mem_zipIdx_iff_getElem?.1 hmem
      cases m with
      | looked cancelled =>
          simp only [beq_iff_eq]
          rw [Bool.eq_iff_iff, decide_eq_true_eq]
          exact h i cancelled hi
      | _ => rfl

namespace Move

/-- The attempt of a suite that comes to its end. -/
def over? : Move → Option (String × Nat)
  | .ended run _ _ | .lost run _ | .cancelled run _ => some (run.suite, run.attempt)
  | _ => none

/-- The attempt that is ended because the run is cancelled. -/
def cancelled? : Move → Option SuiteRun
  | .cancelled run _ => some run
  | _ => none

/-- The move is a look that sees the wish to cancel. -/
def sees : Move → Bool
  | .looked seen => seen
  | _ => false

theorem sees_eq_true {m : Move} : m.sees = true ↔ m = .looked true := by
  cases m <;> simp [sees]

/-- The move is no look that sees the wish to cancel, and not the last phase that can be cancelled.
-/
def Calm (m : Move) : Prop := m ≠ .looked true ∧ m ≠ .entered .resultsCollected

/-- The move is still made once the wish to cancel has been seen. -/
def Closing : Move → Prop
  | .cancelled .. => True
  | .entered phase => phase = .failed
  | .called c => c.kind = .teardown
  | _ => False

end Move

/-- An attempt of a suite has been launched as a process and has not come to its end. -/
def StillActive (moves : List Move) (name : String) (attempt : Nat) (process : ProcessId) : Prop :=
  .launched name attempt process ∈ moves ∧ ∀ m ∈ moves, m.over? ≠ some (name, attempt)

/-- The attempt is that one of a suite, as that process. -/
def SuiteRun.Is (run : SuiteRun) (name : String) (attempt : Nat) (process : ProcessId) : Prop :=
  run.suite = name ∧ run.attempt = attempt ∧ run.process = process

/-- A launched attempt is active or has come to its end; a suite whose attempt was lost is recorded,
and none has been cancelled. -/
structure Sealed (active : List SuiteRun) (results : List SuiteSummary) (moves : List Move) :
    Prop where
  known : ∀ name attempt process, .launched name attempt process ∈ moves →
    (∃ m ∈ moves, m.over? = some (name, attempt)) ∨ ∃ run ∈ active, run.Is name attempt process
  lost : ∀ run cause, .lost run cause ∈ moves → run.suite ∈ results.map SuiteSummary.suite
  cancelled : ∀ run ending, .cancelled run ending ∉ moves

section Desk

variable {p : RunPlan} {c : Config} {refused : Option (String × LaunchError)}
  {blocked : List (Nat × String)} {named : Nat → String → Prop} {d d' : Desk}
  {active active' before after : List SuiteRun} {results : List SuiteSummary}
  {moves new : List Move} {run exited : SuiteRun} {outcome : ExitOutcome} {reason : Option String}
  {judgement : Classification} {output : String}

/-! ### Which attempts are active -/

/-- Records leave a desk sealed. -/
theorem Sealed.recorded (h : Sealed active results moves) (more : List SuiteSummary) :
    Sealed active (results ++ more) moves where
  known := h.known
  lost run cause hmem := by
    rw [List.map_append]
    exact List.mem_append_left _ (h.lost run cause hmem)
  cancelled := h.cancelled

/-- So does another watch over an attempt that goes on. -/
theorem Sealed.watched (h : Sealed (before ++ run :: after) results moves) (watch : TimeoutWatch) :
    Sealed (before ++ { run with watch } :: after) results moves where
  known name attempt process hmem := by
    refine (h.known name attempt process hmem).imp_right ?_
    rintro ⟨other, hother, hsame⟩
    rcases List.mem_append.1 hother with hother | hother
    · exact ⟨other, List.mem_append_left _ hother, hsame⟩
    · rcases List.mem_cons.1 hother with rfl | hother
      · exact ⟨{ other with watch }, List.mem_append_right _ (List.mem_cons_self ..), hsame⟩
      · exact ⟨other, List.mem_append_right _ (List.mem_cons_of_mem _ hother), hsame⟩
  lost := h.lost
  cancelled := h.cancelled

/-- So do moves that launch nothing and end nothing. -/
theorem Sealed.moved (h : Sealed active results moves)
    (hnew : ∀ m ∈ new, m.over? = none ∧ ∀ name attempt process, m ≠ .launched name attempt process) :
    Sealed active results (moves ++ new) where
  known name attempt process hmem := by
    rcases List.mem_append.1 hmem with hmem | hmem
    · rcases h.known name attempt process hmem with ⟨m, hm, hover⟩ | hactive
      · exact .inl ⟨m, List.mem_append_left _ hm, hover⟩
      · exact .inr hactive
    · exact absurd rfl ((hnew _ hmem).2 name attempt process)
  lost run cause hmem := by
    rcases List.mem_append.1 hmem with hmem | hmem
    · exact h.lost run cause hmem
    · exact nomatch (hnew _ hmem).1
  cancelled run ending hmem := by
    rcases List.mem_append.1 hmem with hmem | hmem
    · exact h.cancelled run ending hmem
    · exact nomatch (hnew _ hmem).1

/-- An attempt is launched. -/
theorem Sealed.launched (h : Sealed active results moves) (hrun : run ∈ active')
    (hactive : ∀ other ∈ active, other ∈ active') {name : String} {attempt : Nat}
    (hname : run.suite = name) (hattempt : run.attempt = attempt) :
    Sealed active' results (moves ++ [Move.launched name attempt run.process]) where
  known other n process hmem := by
    rcases List.mem_append.1 hmem with hmem | hmem
    · rcases h.known other n process hmem with ⟨m, hm, hover⟩ | ⟨run', hrun', hsame⟩
      · exact .inl ⟨m, List.mem_append_left _ hm, hover⟩
      · exact .inr ⟨run', hactive run' hrun', hsame⟩
    · simp only [List.mem_singleton, Move.launched.injEq] at hmem
      obtain ⟨rfl, rfl, rfl⟩ := hmem
      exact .inr ⟨run, hrun, hname, hattempt, rfl⟩
  lost run' cause hmem := by
    rcases List.mem_append.1 hmem with hmem | hmem
    · exact h.lost run' cause hmem
    · simp at hmem
  cancelled run' ending hmem := by
    rcases List.mem_append.1 hmem with hmem | hmem
    · exact h.cancelled run' ending hmem
    · simp at hmem

/-- An attempt comes to its end. -/
theorem Sealed.ended {m : Move} (h : Sealed (before ++ run :: after) results moves)
    (hover : m.over? = some (run.suite, run.attempt))
    (hlost : ∀ other cause, m = .lost other cause → other.suite ∈ results.map SuiteSummary.suite)
    (hcancelled : ∀ other ending, m ≠ .cancelled other ending) :
    Sealed (before ++ after) results (moves ++ [m]) where
  known name attempt process hmem := by
    rcases List.mem_append.1 hmem with hmem | hmem
    · rcases h.known name attempt process hmem with ⟨m', hm', hover'⟩ | ⟨other, hother, hsame⟩
      · exact .inl ⟨m', List.mem_append_left _ hm', hover'⟩
      · rcases List.mem_append.1 hother with hother | hother
        · exact .inr ⟨other, List.mem_append_left _ hother, hsame⟩
        · rcases List.mem_cons.1 hother with rfl | hother
          · refine .inl ⟨m, List.mem_append_right _ (List.mem_singleton.2 rfl), ?_⟩
            rw [hover, hsame.1, hsame.2.1]
          · exact .inr ⟨other, List.mem_append_right _ hother, hsame⟩
    · rw [List.mem_singleton] at hmem
      rw [← hmem] at hover
      cases hover
  lost other cause hmem := by
    rcases List.mem_append.1 hmem with hmem | hmem
    · exact h.lost other cause hmem
    · exact hlost other cause (List.mem_singleton.1 hmem).symm
  cancelled other ending hmem := by
    rcases List.mem_append.1 hmem with hmem | hmem
    · exact h.cancelled other ending hmem
    · exact hcancelled other ending (List.mem_singleton.1 hmem).symm

theorem Move.Idle.neither {m : Move} (h : m.Idle) :
    m.over? = none ∧ ∀ name attempt process, m ≠ .launched name attempt process := by
  cases m with
  | looked | polled | called => exact ⟨rfl, nofun⟩
  | _ => exact h.elim

theorem Settles.neither {kind : Option FailureKind}
    (h : Settles p run judgement output reason new kind) :
    ∀ m ∈ new, m.over? = none ∧ ∀ name attempt process, m ≠ .launched name attempt process := by
  cases h <;> simp [Move.over?]

theorem Exited.sealed {calls : List Move} (h : Exited p run outcome reason exited judgement output)
    (hrun : run.IsNew) (hsealed : Sealed (before ++ run :: after) results moves)
    (hcalls : ∀ m ∈ calls, Run.Collects m) :
    Sealed (before ++ after) results (moves ++ [Move.ended exited judgement output] ++ calls) := by
  have hover : (Move.ended exited judgement output).over? = some (run.suite, run.attempt) := by
    rw [h.same hrun]
    rfl
  exact (hsealed.ended hover (by simp) (by simp)).moved fun m hm => (hcalls m hm).idle.neither

theorem Completes.sealed {next : Option SuiteRun} {record : Option SuiteSummary}
    (h : Completes p named run outcome reason next new record) (hrun : run.IsNew)
    (hsealed : Sealed (before ++ run :: after) results moves) :
    Sealed (before ++ (next.toList ++ after)) (results ++ record.toList) (moves ++ new) := by
  cases h with
  | @again exited next judgement output calls hending hcalls hwants hlimit hnext =>
      have hsub : ∀ other ∈ before ++ after, other ∈ before ++ ((some next).toList ++ after) := by
        simp only [List.mem_append]
        exact fun other hother => hother.imp_right .inr
      have hmem : next ∈ before ++ ((some next).toList ++ after) := by simp
      have hlaunched := (hending.sealed hrun hsealed hcalls).launched hmem hsub hnext.suite
        hnext.attempt
      simp only [List.append_assoc, List.cons_append, List.nil_append] at hlaunched
      exact hlaunched.recorded []
  | judged hending hcalls hkind durationMs =>
      have hjudged := (hending.sealed hrun hsealed hcalls).moved hkind.neither
      simp only [List.append_assoc, List.cons_append, List.nil_append] at hjudged
      exact hjudged.recorded _

/-- What is known at a desk as long as no look has seen the wish to cancel. -/
structure Desk.Undisturbed (p : RunPlan) (d : Desk) : Prop where
  runs : d.Runs p
  calm : ∀ m ∈ d.moves, m.Calm
  isSealed : Sealed d.active d.results d.moves

theorem Move.Busy.calm {m : Move} (h : m.Busy) : m.Calm := by
  cases m with
  | looked cancelled =>
      rcases h with h | h
      · cases cancelled with
        | true => exact h.elim
        | false => exact ⟨by simp, nofun⟩
      · cases h
  | entered phase =>
      rcases h with h | h
      · exact h.elim
      · cases h
  | _ => exact ⟨nofun, nofun⟩

theorem calm_append (h : ∀ m ∈ moves, m.Calm) (hnew : ∀ m ∈ new, m.Busy) :
    ∀ m ∈ moves ++ new, m.Calm :=
  List.forall_mem_append.2 ⟨h, fun m hm => (hnew m hm).calm⟩

theorem Taking.undisturbed (h : Taking p blocked named d d') (hd : d.Undisturbed p) :
    d'.Undisturbed p := by
  refine ⟨h.runs hd.runs, ?_, ?_⟩
  · obtain ⟨new, hnew, hbusy⟩ := h.moves
    rw [hnew]
    exact calm_append hd.calm hbusy
  · cases h with
    | barred => exact hd.isSealed.recorded _
    | undispatched => exact (hd.isSealed.recorded _).moved (by simp [Move.over?])
    | started hname hfree hrun =>
        exact hd.isSealed.launched (List.mem_append_right _ (List.mem_singleton.2 rfl))
          (fun other hother => List.mem_append_left _ hother) hrun.suite hrun.attempt

theorem Watching.undisturbed (h : Watching p named d d') (hd : d.Undisturbed p) :
    d'.Undisturbed p := by
  refine ⟨h.runs hd.runs, ?_, ?_⟩
  · obtain ⟨new, hnew, hbusy⟩ := h.moves
    rw [hnew]
    exact calm_append hd.calm hbusy
  have hsealed := hd.isSealed
  cases h with
  | aside hm => exact hsealed.moved (List.forall_mem_singleton.2 hm.neither)
  | @watched before after run hactive watch =>
      rw [hactive] at hsealed
      simpa only [Desk.finish, Option.toList_some, Option.toList_none, List.append_nil,
        List.singleton_append] using hsealed.watched watch
  | completed hactive h =>
      rw [hactive] at hsealed
      exact h.sealed (hd.runs _ (mem_active hactive)).new hsealed
  | @lost before after run hactive cause =>
      rw [hactive] at hsealed
      refine (hsealed.recorded _).ended (m := .lost run cause) rfl (fun other why h => ?_) (by simp)
      obtain ⟨rfl, -⟩ := Move.lost.inj h
      rw [List.map_append]
      exact List.mem_append_right _ (List.mem_singleton.2 rfl)

/-- What launches nothing and ends nothing does not matter for which attempts are still active. -/
theorem stillActive_append {moves new : List Move}
    (hnew : ∀ m ∈ new, m.over? = none ∧ ∀ name attempt process, m ≠ .launched name attempt process)
    (name : String) (attempt : Nat) (process : ProcessId) :
    StillActive (moves ++ new) name attempt process ↔ StillActive moves name attempt process := by
  constructor
  · rintro ⟨hlaunched, hover⟩
    refine ⟨?_, fun m hm => hover m (List.mem_append_left _ hm)⟩
    rcases List.mem_append.1 hlaunched with hlaunched | hlaunched
    · exact hlaunched
    · exact absurd rfl ((hnew _ hlaunched).2 name attempt process)
  · rintro ⟨hlaunched, hover⟩
    refine ⟨List.mem_append_left _ hlaunched, fun m hm => ?_⟩
    rcases List.mem_append.1 hm with hm | hm
    · exact hover m hm
    · rw [(hnew m hm).1]
      nofun

/-- The attempts that are still active by the moves are the active ones. -/
theorem Ledger.stillActive_iff (h : Ledger c refused d)
    (hsealed : Sealed d.active d.results d.moves) (name : String) (attempt : Nat)
    (process : ProcessId) :
    StillActive d.moves name attempt process ↔ ∃ run ∈ d.active, run.Is name attempt process := by
  constructor
  · rintro ⟨hlaunched, hover⟩
    rcases hsealed.known name attempt process hlaunched with ⟨m, hm, hsame⟩ | hactive
    · exact absurd hsame (hover m hm)
    · exact hactive
  · rintro ⟨run, hrun, rfl, rfl, rfl⟩
    have hunderway := h.active run hrun
    refine ⟨hunderway.started, fun m hm hover => ?_⟩
    cases m with
    | ended other judgement output =>
        obtain ⟨hsuite, hattempt⟩ := Prod.mk.inj (Option.some.inj hover)
        have hlt := hunderway.ended other judgement output hm hsuite
        omega
    | lost other cause =>
        obtain ⟨hsuite, -⟩ := Prod.mk.inj (Option.some.inj hover)
        exact h.not_recorded hrun (hsuite ▸ hsealed.lost other cause hm)
    | cancelled other ending => exact hsealed.cancelled other ending hm
    | _ => cases hover

end Desk

/-- The summary says that the run has failed for good. -/
structure RunSummary.Fails (summary : RunSummary) : Prop where
  finalState : summary.finalState = .failed
  verdict : summary.verdict = .fatal
  exitCode : summary.exitCode = 4

/-- Once a look has seen the wish to cancel, the attempts that `before` leaves active are ended,
each once, and each is recorded in `suites` as cancelled; apart from that the run fails and its
devices are torn down. -/
structure CutShort (before after : List Move) (suites : List SuiteSummary) : Prop where
  closing : ∀ m ∈ after, m.Closing
  once : ((after.filterMap Move.cancelled?).map SuiteRun.suite).Nodup
  active : ∀ name attempt process, StillActive before name attempt process ↔
    ∃ run ∈ after.filterMap Move.cancelled?, run.Is name attempt process
  recorded : ∀ run ∈ after.filterMap Move.cancelled?,
    (suites.map SuiteSummary.suite).count run.suite = 1 ∧
      ∃ x ∈ suites, x.suite = run.suite ∧ x.attempts = run.attempt ∧ x.status = .cancelled

/-- A run that has seen no wish to cancel has looked no more often than there were moves before the
wish. -/
theorem Wished.looks_le {k : Nat} {moves : List Move} (h : Wished k moves)
    (hcalm : ∀ m ∈ moves, m ≠ .looked true) : moves.countP Move.isLook ≤ k := by
  have hlate : (moves.drop k).countP Move.isLook = 0 := by
    refine List.countP_eq_zero.2 fun m hm hlook => ?_
    obtain ⟨i, hi⟩ := List.mem_iff_getElem?.1 hm
    rw [List.getElem?_drop] at hi
    cases m with
    | looked cancelled =>
        have hseen : cancelled = true := (h _ cancelled hi).2 (Nat.le_add_right k i)
        exact hcalm _ (List.mem_of_getElem? hi) (by rw [hseen])
    | _ => cases hlook
  have hearly : (moves.take k).countP Move.isLook ≤ k :=
    Nat.le_trans List.countP_le_length (List.length_take_le k moves)
  rw [← List.take_append_drop k moves, List.countP_append, hlate, Nat.add_zero]
  exact hearly

namespace Run

variable {σ β κ : Type} {kept : Device → κ} {s : Setup σ β} {c : Config} {r r' r₀ r₁ r₂ : Run σ β}
  {d : Desk} {active : List SuiteRun} {passes count : Nat} {blocked : List (Nat × String)}
  {named : Nat → String → Prop}

/-! ### States of a run -/

/-- The run has neither seen the wish to cancel nor come to the collection of its results. -/
def Calm (r : Run σ β) : Prop := ∀ m ∈ r.moves.toList, m.Calm

/-- The run has stopped because a look has seen the wish to cancel; the attempts that were active
have been ended and recorded. -/
def Caught (r : Run σ β) : Prop :=
  ∃ before : List Move, ∃ rows : List Cancellation,
    r.moves.toList = before ++ .looked true :: rows.map Cancellation.move ∧
    (∀ m ∈ before, m.Calm) ∧ ((rows.map Cancellation.run).map SuiteRun.suite).Nodup ∧
    (∀ name attempt process, StillActive before name attempt process ↔
      ∃ run ∈ rows.map Cancellation.run, run.Is name attempt process) ∧
    ∀ row ∈ rows, row.record ∈ r.results

/-- The run has come to the collection of its results without having seen the wish. -/
def Collected (r : Run σ β) : Prop :=
  ∃ before : List Move, r.moves.toList = before ++ [Move.looked false, .entered .resultsCollected] ∧
    ∀ m ∈ before, m.Calm

/-- The suites have not been begun. -/
structure Early (r : Run σ β) : Prop where
  moves : ∀ m ∈ r.moves.toList, m.Calm ∧ ¬m.In .suitesRunning
  records : Unrecorded r

/-- The state of a run that is stopped in its phases. -/
def Interrupted (s : Setup σ β) (passes : Nat) (stop : Stop) (r : Run σ β) : Prop :=
  match stop with
  | .phase _ => Calm r ∨ Caught r
  | .broken (.duration cause) => s.Overlong cause ∧ Calm r
  | .broken .unfinished => Calm r ∧ passes ≤ r.looks

/-- A run that has not seen the wish is stopped in its phases before its looks are used up. -/
theorem interrupted_of_mayStop {stop : Stop} (hstop : s.MayStop stop) (hr : Calm r) :
    Interrupted s passes stop r := by
  cases stop with
  | phase outcome => exact Or.inl hr
  | broken cause =>
      cases cause with
      | duration cause => exact ⟨hstop, hr⟩
      | unfinished => exact hstop.elim

theorem Move.In.calm {phase : Phase} {m : Move} (h : m.In phase) : m.Calm := by
  constructor
  · rintro rfl
    cases h
  · rintro rfl
    cases h

theorem mem_looked {k : Nat} {cancelled : Bool} {m : Move}
    (hm : m ∈ List.replicate k (Move.looked false) ++ [Move.looked cancelled]) :
    m = .looked false ∨ m = .looked cancelled := by
  rcases List.mem_append.1 hm with hm | hm
  · exact .inl (List.eq_of_mem_replicate hm)
  · exact .inr (List.mem_singleton.1 hm)

theorem Calm.robust {phase : Phase} : Robust kept (Move.In phase) (Calm : Run σ β → Prop) := by
  intro r r' h hadds m hm
  obtain ⟨new, hnew, hphase⟩ := hadds.moves
  rw [hnew] at hm
  rcases List.mem_append.1 hm with hm | hm
  · exact h m hm
  · exact Move.In.calm (hphase m hm)

theorem Calm.looked (h : Calm r) (hlook : Looked false r r') : Calm r' := by
  obtain ⟨k, hmoves⟩ := hlook.moves
  intro m hm
  rw [hmoves] at hm
  rcases List.mem_append.1 hm with hm | hm
  · exact h m hm
  · rcases mem_looked hm with rfl | rfl <;> exact ⟨by simp, by simp⟩

theorem Early.calm (h : Early r) : Calm r := fun m hm => (h.moves m hm).1

theorem Early.robust {phase : Phase} (hphase : phase ≠ .suitesRunning) :
    Robust kept (Move.In phase) (Early : Run σ β → Prop) := by
  intro r r' h hadds
  refine ⟨fun m hm => ⟨Calm.robust r r' h.calm hadds m hm, ?_⟩,
    robust_unrecorded r r' h.records hadds⟩
  obtain ⟨new, hnew, hin⟩ := hadds.moves
  rw [hnew] at hm
  rcases List.mem_append.1 hm with hm | hm
  · exact (h.moves m hm).2
  · intro hsuites
    have hsame := hin m hm
    rw [Move.In, hsuites] at hsame
    exact hphase (Option.some.inj hsame).symm

theorem Early.looked (h : Early r) (hlook : Looked false r r') : Early r' := by
  refine ⟨fun m hm => ⟨h.calm.looked hlook m hm, ?_⟩, robust_unrecorded r r' h.records hlook.adds⟩
  obtain ⟨k, hmoves⟩ := hlook.moves
  rw [hmoves] at hm
  rcases List.mem_append.1 hm with hm | hm
  · exact (h.moves m hm).2
  · rcases mem_looked hm with rfl | rfl <;> exact nofun

theorem Early.not_stillActive (h : Early r) (name : String) (attempt : Nat) (process : ProcessId) :
    ¬StillActive r.moves.toList name attempt process :=
  fun hactive => (h.moves _ hactive.1).2 rfl

theorem Early.undisturbed (h : Early r) (p : RunPlan) : (r.desk 0 []).Undisturbed p where
  runs := desk_nil_runs p r
  calm := h.calm
  isSealed := {
    known _ _ _ hmem := absurd rfl (h.moves _ hmem).2
    lost _ _ hmem := absurd rfl (h.moves _ hmem).2
    cancelled _ _ hmem := (h.moves _ hmem).2 rfl }

/-- A look has seen the wish, and the active attempts have been ended. -/
theorem caught_of_cancels {rows : List Cancellation} (hcalm : Calm r₁) (hlook : Looked true r₁ r₂)
    (hrows : Cancelling (r₂.desk count active) rows (r.desk count []))
    (hnodup : (active.map SuiteRun.suite).Nodup)
    (hactive : ∀ name attempt process, StillActive r₁.moves.toList name attempt process ↔
      ∃ run ∈ active, run.Is name attempt process) :
    Caught r := by
  obtain ⟨k, hlooked⟩ := hlook.moves
  obtain ⟨hruns, hresults, hmoves⟩ := Cancelling.written hrows
  have hruns : rows.map Cancellation.run = active := hruns
  have hmoves : r.moves.toList = r₂.moves.toList ++ rows.map Cancellation.move := hmoves
  have hfalse : ∀ m ∈ List.replicate k (Move.looked false), m = .looked false :=
    fun m hm => List.eq_of_mem_replicate hm
  refine ⟨r₁.moves.toList ++ List.replicate k (Move.looked false), rows, ?_, fun m hm => ?_, ?_,
    fun name attempt process => ?_, fun row hrow => ?_⟩
  · rw [hmoves, hlooked]
    simp only [List.append_assoc, List.cons_append, List.nil_append]
  · rcases List.mem_append.1 hm with hm | hm
    · exact hcalm m hm
    · rw [hfalse m hm]
      exact ⟨by simp, by simp⟩
  · rw [hruns]
    exact hnodup
  · rw [hruns, ← hactive name attempt process]
    refine stillActive_append (fun m hm => ?_) name attempt process
    rw [hfalse m hm]
    exact ⟨rfl, nofun⟩
  · rw [hresults]
    exact List.mem_append_right _ (List.mem_map_of_mem hrow)

/-- The same when nothing is active. -/
theorem caught_of_looked (hcalm : Calm r₀) (hlook : Looked true r₀ r)
    (hnone : ∀ name attempt process, ¬StillActive r₀.moves.toList name attempt process) :
    Caught r := by
  have hnothing : Cancelling (r.desk 0 []) [] (r.desk 0 []) := .none rfl
  refine caught_of_cancels hcalm hlook hnothing List.nodup_nil fun name attempt process => ?_
  exact iff_of_false (hnone name attempt process) (by simp)

/-! ### The phases -/

/-- A phase is entered, or the run stops there. -/
theorem enter_caught {I I' : Run σ β → Prop} {target : Phase} (hcalm : ∀ r, I r → Calm r)
    (hlook : ∀ r r', I r → Looked false r r' → I r')
    (hnone : ∀ r, I r → ∀ name attempt process,
      ¬StillActive r.moves.toList name attempt process)
    (henter : ∀ r r' l, I r → Looked false r r' →
      I' { r' with machine := l, moves := r'.moves.push (.entered target) }) :
    Ends I (enter s target) (fun _ => I') (Interrupted s passes) := by
  refine .of_eq fun r hr => (enter_looked target r).weaken (fun _ r' h => ?_) fun stop r' h => ?_
  · obtain ⟨r₁, l, hlooked, rfl⟩ := h
    exact henter r r₁ l hr hlooked
  · obtain ⟨⟨outcome, rfl⟩, cancelled, hlooked, -⟩ := h
    cases cancelled with
    | false => exact .inl (hcalm r' (hlook r r' hr hlooked))
    | true => exact .inr (caught_of_looked (hcalm r hr) hlooked (hnone r hr))

theorem enter_early {target : Phase} (htarget : target ≠ .resultsCollected) :
    Ends Early (enter s target) (fun _ => Early) (Interrupted s passes) := by
  refine enter_caught (fun _ h => h.calm) (fun _ _ h => h.looked) (fun _ h => h.not_stillActive)
    fun r r' l h hlook => ?_
  have hearly := h.looked hlook
  refine ⟨fun m hm => ?_, hearly.records⟩
  rw [Array.toList_push] at hm
  rcases List.mem_append.1 hm with hm | hm
  · exact hearly.moves m hm
  · rw [List.mem_singleton.1 hm]
    exact ⟨⟨by simp, by simpa using htarget⟩, nofun⟩

/-! ### The suites -/

theorem Undisturbed.taking (hr : Early r₀)
    (h : ReflTransGen (Taking s.plan blocked named) (r₀.desk 0 []) d) : d.Undisturbed s.plan :=
  kept_along (fun _ _ => Taking.undisturbed) h (hr.undisturbed s.plan)

theorem Going.undisturbed (h : Going s blocked named r₀ active r) (hr : Early r₀) :
    (r.desk s.plan.config.selected.length active).Undisturbed s.plan := by
  obtain ⟨d, htaking, -, hreached⟩ := h
  exact kept_along (fun _ _ => Watching.undisturbed) hreached.turns (Undisturbed.taking hr htaking)

theorem Going.calm (h : Going s blocked named r₀ active r) (hr : Early r₀) : Calm r :=
  (h.undisturbed hr).calm

/-- A run that is stopped while its suites run has not seen the wish to cancel, or it has ended what
was active. -/
theorem Stopped.interrupted {stop : Stop} (h : Stopped s blocked named r₀ passes stop r)
    (hv : s.plan.config.SuitesValid) (hr : Early r₀) : Interrupted s passes stop r := by
  cases h with
  | @aborted d name cause rows r hturns hname hfree hrows =>
      obtain ⟨-, -, hmoves⟩ := Cancelling.written hrows
      refine Or.inl fun m hm => ?_
      rw [hmoves] at hm
      have hcalm : ∀ m ∈ d.moves ++ [.refused name 1 (.launch cause)], m.Calm :=
        calm_append (Undisturbed.taking hr hturns).calm (List.forall_mem_singleton.2 (.inr rfl))
      rcases List.mem_append.1 hm with hm | hm
      · exact hcalm m hm
      · obtain ⟨row, -, rfl⟩ := List.mem_map.1 hm
        exact ⟨nofun, nofun⟩
  | @halted active rows r₁ r₂ r hgoing hlook hrows =>
      have hledger := hgoing.ledger hv.nodup hv.runLimit
        (ledger_empty (fun m hm => (hr.moves m hm).2) hr.records)
      have hundisturbed := hgoing.undisturbed hr
      refine Or.inr (caught_of_cancels hundisturbed.calm hlook hrows ?_
        (hledger.stillActive_iff hundisturbed.isSealed))
      exact (List.nodup_append.1 hledger.nodup_names).1
  | @first d name process cause r hturns hname hfree hcause hdesk =>
      have hmoves : r.moves.toList = d.moves ++ Move.overlong name 1 process cause :=
        congrArg Desk.moves hdesk
      refine ⟨hcause, ?_⟩
      rw [Calm, hmoves]
      exact calm_append (Undisturbed.taking hr hturns).calm
        (by simp [Move.overlong, Move.Busy, Move.In, Move.phase?])
  | @later d d₁ active cause r hturns hcount hwatching hcause hdesk =>
      obtain ⟨new, hnew, hbusy⟩ := hdesk.moves
      have hundisturbed : d₁.Undisturbed s.plan := kept_along (fun _ _ => Watching.undisturbed)
        hwatching (Undisturbed.taking hr hturns)
      have hnew : r.moves.toList = d₁.moves ++ new := hnew
      refine ⟨hcause, ?_⟩
      rw [Calm, hnew]
      exact calm_append hundisturbed.calm hbusy
  | unmeasured hgoing hwait => exact ⟨.look hwait, hgoing.calm hr⟩
  | unfinished hgoing hlooks => exact ⟨hgoing.calm hr, hlooks⟩

/-- All suites have been recorded, and the wish to cancel has not been seen. -/
structure AllEnded (p : RunPlan) (r : Run σ β) : Prop where
  calm : Calm r
  accounts : AllRecorded p.config r
  isSealed : Sealed [] r.results r.moves.toList

theorem runSuites_caught (hv : s.plan.config.SuitesValid) (passes : Nat)
    (blocked : List (Nat × String)) :
    Ends Early (runSuites s passes blocked) (fun _ => AllEnded s.plan) (Interrupted s passes) := by
  refine .of_eq fun r hr => (runSuites_steps (named_any s r) passes blocked).weaken
    (fun _ r' h => ?_) fun stop r' h => h.2.interrupted hv hr
  have hundisturbed := h.undisturbed hr
  exact ⟨hundisturbed.calm, h.ledger hv.nodup hv.runLimit
    (ledger_empty (fun m hm => (hr.moves m hm).2) hr.records), hundisturbed.isSealed⟩

theorem AllEnded.looked {p : RunPlan} (h : AllEnded p r) (hlook : Looked false r r') :
    AllEnded p r' where
  calm := h.calm.looked hlook
  accounts := robust_ledger r r' h.accounts (hlook.adds.mono fun m hm => by
    obtain ⟨b, rfl⟩ := hm
    exact ⟨rfl, nofun⟩)
  isSealed := by
    obtain ⟨k, hmoves⟩ := hlook.moves
    rw [hlook.adds.results, hmoves]
    refine h.isSealed.moved fun m hm => ?_
    rcases mem_looked hm with rfl | rfl <;> exact ⟨rfl, nofun⟩

theorem AllEnded.not_stillActive {p : RunPlan} (h : AllEnded p r) (name : String) (attempt : Nat)
    (process : ProcessId) : ¬StillActive r.moves.toList name attempt process := by
  intro hactive
  obtain ⟨run, hrun, -⟩ :=
    (Ledger.stillActive_iff h.accounts h.isSealed name attempt process).1 hactive
  cases hrun

/-- A run comes to its suites before the wish to cancel has been seen, or stops. -/
theorem untilSuites_early (passes : Nat) :
    Ends Begun (untilSuites s) (fun _ => Early) (Interrupted s passes) := by
  have hb := s.backend.keeps_nothing
  have hacquire : ∀ (r : Run σ β) (lab : Lab σ) (memory : β) (call : BackendCall), Early r →
      call.kind = .acquire → Early { r with lab, memory, moves := r.moves.push (.called call) } := by
    intro r lab memory call h hkind
    have hrobust : Robust (fun _ => ()) (Move.In .acquiringDevices) (Early : Run σ β → Prop) :=
      Early.robust (by decide)
    have hearly := hrobust r _ h (adds_move r (Move.in_call (by rw [hkind]; rfl)))
    exact ⟨hearly.moves, hearly.records⟩
  refine .bind ((enter_early (by decide)).conseq (fun r h => ?_) (fun _ _ h => h) fun _ _ h => h)
    fun _ => ?_
  · refine ⟨fun m hm => ?_, h.results, h.resultLogs⟩
    rw [h.moves] at hm
    cases hm
  refine .bind ((acquireDevices_keeps hacquire fun _ _ h => ⟨h.moves, h.records⟩).weaken
    (fun _ _ h => h) fun stop r h => ?_) fun _ => .bind (enter_early (by decide)) fun _ => ?_
  · obtain ⟨⟨outcome, rfl⟩, hearly⟩ := h
    exact Or.inl hearly.calm
  refine .bind ((startDevices_looks hb (Early.robust (by decide)) (fun _ _ h => h.looked)
    fun _ _ h => ⟨h.moves, h.records⟩).weaken (fun _ _ h => h) fun stop r h => ?_) fun _ => ?_
  · obtain ⟨hstop, hearly | ⟨⟨outcome, rfl⟩, r₀, hearly, hlook⟩⟩ := h
    · exact interrupted_of_mayStop hstop hearly.calm
    · exact Or.inr (caught_of_looked hearly.calm hlook hearly.not_stillActive)
  refine .bind (enter_early (by decide)) fun _ => ?_
  refine .bind (.lift (startLogCapture_keeps hb (Early.robust (by decide)))) fun _ => ?_
  refine .bind (enter_early (by decide)) fun _ => ?_
  refine .bind (.lift (installArtifacts_keeps hb (Early.robust (by decide))
    fun _ _ h => ⟨h.moves, h.records⟩)) fun blocked => ?_
  exact .bind (enter_early (by decide)) fun _ => .pure fun _ h => h

/-- The phases of a run lead to the collection of its results before the wish to cancel has been
seen; or the run stops, and if it stops because of the wish then all active attempts are ended. -/
theorem execute_caught (hv : s.plan.config.SuitesValid) (passes : Nat) :
    Ends Begun (execute s passes) (fun _ => Collected) (Interrupted s passes) := by
  rw [execute_eq]
  refine .bind (untilSuites_early passes) fun blocked => .bind (runSuites_caught hv passes blocked)
    fun _ => ?_
  refine enter_caught (fun _ h => h.calm) (fun _ _ h => h.looked) (fun _ h => h.not_stillActive)
    fun r r' l h hlook => ?_
  obtain ⟨k, hmoves⟩ := hlook.moves
  refine ⟨r.moves.toList ++ List.replicate k (Move.looked false), ?_, fun m hm => ?_⟩
  · rw [Array.toList_push, hmoves]
    simp only [List.append_assoc, List.cons_append, List.nil_append]
  · rcases List.mem_append.1 hm with hm | hm
    · exact h.calm m hm
    · rw [List.eq_of_mem_replicate hm]
      exact ⟨by simp, by simp⟩

/-! ### The report -/

theorem Reports.fails {phase : Phase} {outcomes : List PhaseOutcome} {before after : List Move}
    {final : Run σ β} {report : RunReport}
    (h : Reports (.failedIn phase) outcomes before after r final report) : report.summary.Fails := by
  have hfatal : report.summary.verdict = .fatal := by
    rw [h.summary.verdict, h.machine, RunSummary.verdictOf]
    exact Severity.join_fatal _
  refine ⟨?_, hfatal, ?_⟩
  · rw [h.summary.finalState, h.machine]
    rfl
  · rw [h.summary.exitCode, ← h.summary.verdict, hfatal]
    rfl

theorem Accounted.nodup {phase : Phase} (h : Accounted c phase r) :
    (r.results.map SuiteSummary.suite).Nodup := by
  obtain ⟨count, refused, hledger, -⟩ := h
  exact hledger.nodup_names

theorem filterMap_cancelled_rows (rows : List Cancellation) :
    (rows.map Cancellation.move).filterMap Move.cancelled? = rows.map Cancellation.run := by
  have hsome : Move.cancelled? ∘ Cancellation.move = some ∘ Cancellation.run := rfl
  rw [List.filterMap_map, hsome, List.filterMap_eq_map]

theorem filterMap_cancelled_calls (calls : List BackendCall) :
    (calls.map Move.called).filterMap Move.cancelled? = [] := by
  rw [List.filterMap_map, List.filterMap_eq_nil_iff]
  exact fun _ _ => rfl

/-- A run that was caught, up to its report. -/
theorem Caught.cutShort {phase : Phase} {outcomes : List PhaseOutcome} {final : Run σ β}
    {report : RunReport} (hcaught : Caught r) (hnodup : (r.results.map SuiteSummary.suite).Nodup)
    (h : Reports (.failedIn phase) outcomes [.entered .failed] [] r final report)
    {before after : List Move} (hsplit : final.moves.toList = before ++ .looked true :: after) :
    CutShort before after report.summary.suites := by
  obtain ⟨before₀, rows, hmoves, hcalm, honce, hactive, hrecords⟩ := hcaught
  obtain ⟨calls, hcalls, hend⟩ := h.moves
  rw [hmoves, List.append_assoc, List.cons_append, List.append_nil] at hend
  -- the look is the only one that has seen the wish
  have hbefore : Move.looked true ∉ before₀ := fun hmem => (hcalm _ hmem).1 rfl
  have hafter : Move.looked true ∉
      rows.map Cancellation.move ++ ([Move.entered .failed] ++ calls.map Move.called) := by
    simp [Cancellation.move]
  rw [hend] at hsplit
  obtain ⟨rfl, -, rfl⟩ := (List.append_cons_inj_of_notMem hbefore hafter).1 hsplit
  have hended : (rows.map Cancellation.move ++
      ([Move.entered .failed] ++ calls.map Move.called)).filterMap Move.cancelled? =
        rows.map Cancellation.run := by
    rw [List.filterMap_append, List.filterMap_append, filterMap_cancelled_rows,
      filterMap_cancelled_calls]
    exact List.append_nil _
  refine ⟨fun m hm => ?_, by rwa [hended], by rwa [hended], fun run hrun => ?_⟩
  · rcases List.mem_append.1 hm with hm | hm
    · obtain ⟨row, -, rfl⟩ := List.mem_map.1 hm
      trivial
    · rcases List.mem_append.1 hm with hm | hm
      · rw [List.mem_singleton.1 hm]
        rfl
      · obtain ⟨call, hcall, rfl⟩ := List.mem_map.1 hm
        exact hcalls call hcall
  · rw [hended] at hrun
    obtain ⟨row, hrow, rfl⟩ := List.mem_map.1 hrun
    have hrecord : row.record ∈ final.results := h.results ▸ hrecords row hrow
    have hbare : row.record.bare ∈ report.summary.suites.map SuiteSummary.bare := by
      rw [h.summary.suites]
      exact List.mem_map_of_mem hrecord
    obtain ⟨x, hx, hsame⟩ := List.mem_map.1 hbare
    have hsuite : x.suite = row.run.suite := congrArg SuiteSummary.suite hsame
    refine ⟨?_, x, hx, hsuite, congrArg SuiteSummary.attempts hsame,
      congrArg SuiteSummary.status hsame⟩
    rw [h.summary.names, h.results]
    refine List.count_eq_one_of_mem hnodup (List.mem_map.2 ⟨row.record, hrecords row hrow, rfl⟩)

/-- After its phases a run that has failed only enters that state and tears its devices down. -/
theorem Reports.mem_of_failed {phase : Phase} {o : PhaseOutcome} {final : Run σ β}
    {report : RunReport} (h : Reports (.failedIn phase) [o] [.entered .failed] [] r final report)
    {m : Move} (hm : m ∈ final.moves.toList) (hfailed : m ≠ .entered .failed)
    (hcall : ∀ call, m ≠ .called call) : m ∈ r.moves.toList := by
  obtain ⟨calls, -, hend⟩ := h.moves
  rw [hend] at hm
  simp only [List.mem_append, List.mem_singleton, List.mem_map, List.not_mem_nil, or_false] at hm
  rcases hm with hm | rfl | ⟨call, -, rfl⟩
  · exact hm
  · exact absurd rfl hfailed
  · exact absurd rfl (hcall call)

/-- A run that was caught has not come to the collection of its results. -/
theorem Caught.not_collected (h : Caught r) : .entered .resultsCollected ∉ r.moves.toList := by
  obtain ⟨before, rows, hmoves, hcalm, -⟩ := h
  rw [hmoves]
  simp only [List.mem_append, List.mem_cons, List.mem_map, not_or, not_exists, not_and]
  exact ⟨fun hm => (hcalm _ hm).2 rfl, by simp, fun row _ => by simp [Cancellation.move]⟩

/-- That the devices have been stopped does not change the verdict. -/
theorem verdictOf_stopped (phases : List PhaseOutcome) (results : List SuiteSummary)
    (failedFrom : Option Phase) (r : Run σ β) :
    RunSummary.verdictOf (phases ++ [stoppedOutcome r]) results failedFrom =
      RunSummary.verdictOf phases results failedFrom := by
  have hworst : Severity.aggregate ((phases ++ [stoppedOutcome r]).map PhaseOutcome.severity ++
      results.map SuiteSummary.verdict) =
      Severity.aggregate (phases.map PhaseOutcome.severity ++ results.map SuiteSummary.verdict) := by
    simp only [Severity.aggregate, List.map_append, List.foldl_append, List.map_cons, List.map_nil,
      List.foldl_cons, List.foldl_nil]
    rw [stoppedOutcome, PhaseOutcome.plain, Severity.join_success]
  rw [RunSummary.verdictOf, hworst, RunSummary.verdictOf]

/-- The moves of a run that has collected its results. -/
theorem Collected.moves {final : Run σ β} {report : RunReport} (hcollected : Collected r)
    (h : Reports (.upTo .done) [] [] [.entered .devicesStopped, .entered .done] r final report) :
    ∃ before rest : List Move, final.moves.toList =
        before ++ .looked false :: .entered .resultsCollected :: rest ∧
      r.moves.toList = before ++ [Move.looked false, .entered .resultsCollected] ∧
      (∀ m ∈ before, m.Calm) ∧ (∀ cancelled, .looked cancelled ∉ rest) ∧
      Move.entered .resultsCollected ∉ rest := by
  obtain ⟨before, hmoves, hcalm⟩ := hcollected
  obtain ⟨calls, -, hend⟩ := h.moves
  refine ⟨before, calls.map Move.called ++ [Move.entered .devicesStopped, .entered .done], ?_,
    hmoves, hcalm, by simp, by simp⟩
  rw [hend, hmoves, List.append_assoc]
  rfl

/-- It has never seen the wish, and the look for `resultsCollected` was its last one: there is only
one place where it can have been. -/
theorem Collected.read {final : Run σ β} {report : RunReport} (hcollected : Collected r)
    (h : Reports (.upTo .done) [] [] [.entered .devicesStopped, .entered .done] r final report) :
    .looked true ∉ final.moves.toList ∧
    (∃ front rest : List Move,
      final.moves.toList = front ++ .looked false :: .entered .resultsCollected :: rest) ∧
    ∀ before after : List Move,
      final.moves.toList = before ++ .looked false :: .entered .resultsCollected :: after →
      r.moves.toList = before ++ [Move.looked false, .entered .resultsCollected] ∧
        ∀ cancelled, .looked cancelled ∉ after := by
  obtain ⟨front, rest, hend, hr, hcalm, hlooks, hrest⟩ := hcollected.moves h
  refine ⟨?_, ⟨front, rest, hend⟩, fun before after hsplit => ?_⟩
  · rw [hend]
    simp only [List.mem_append, List.mem_cons, not_or]
    exact ⟨fun hm => (hcalm _ hm).1 rfl, by simp, by simp, hlooks true⟩
  · have hfront : Move.entered .resultsCollected ∉ front ++ [Move.looked false] := by
      simp only [List.mem_append, List.mem_singleton, not_or]
      exact ⟨fun hm => (hcalm _ hm).2 rfl, by simp⟩
    rw [hend, List.append_cons, List.append_cons before] at hsplit
    obtain ⟨hbefore, -, rfl⟩ := (List.append_cons_inj_of_notMem hfront hrest).1 hsplit
    have hsame : front = before := List.append_cancel_right hbefore
    exact ⟨hsame ▸ hr, hlooks⟩

variable {system : σ} {memory : β} {result : Except Breakdown RunReport} {final : Run σ β}

/-- **What becomes of a run that somebody wishes to cancel.**  If the wish is there after `k` moves
and before the look for `resultsCollected`, the run `Fails`, whatever else happens, unless it
breaks off before a look has seen the wish; it breaks off only at a time that is `Overlong`.  Once
a look has seen the wish (`looked true`), the attempts that are still active are `CutShort`: all
are ended and recorded as cancelled, each once, and nothing is begun `after` that.  A wish that
comes later changes neither the phases nor the verdict: they are those of the state `r` in which
`resultsCollected` was entered. -/
theorem startWithin_cancelled (hv : s.plan.config.validate = .ok ())
    (hrun : (startWithin s passes).run (.fresh s.plan system memory) = (result, final)) :
    (∀ k < passes, Wished k final.moves.toList →
      (∀ before after : List Move, final.moves.toList =
          before ++ .looked false :: .entered .resultsCollected :: after → k ≤ before.length) →
      (∃ report, result = .ok report ∧ report.summary.Fails) ∨
      ∃ cause, result = .error (.duration cause) ∧ s.Overlong cause ∧
        .looked true ∉ final.moves.toList) ∧
    (∀ before after : List Move, final.moves.toList = before ++ .looked true :: after →
      ∃ report, result = .ok report ∧ report.summary.Fails ∧
        CutShort before after report.summary.suites) ∧
    (∀ before after : List Move, final.moves.toList =
        before ++ .looked false :: .entered .resultsCollected :: after →
      ∃ report r, result = .ok report ∧ Executes s passes system memory (.ok ()) r ∧
        r.moves.toList = before ++ [Move.looked false, .entered .resultsCollected] ∧
        (∀ cancelled, .looked cancelled ∉ after) ∧
        report.history = [.idle, .acquiringDevices, .devicesStarting, .devicesHealthy,
          .artifactInstalling, .suitesRunning, .resultsCollected, .devicesStopped, .done] ∧
        report.summary.finalState = .done ∧ report.summary.failedFrom = none ∧
        report.summary.verdict = RunSummary.verdictOf r.phases r.results none) := by
  have hvalid := Config.validate_suites hv
  have hbegun := begun_begun s system memory
  have hcaught := execute_caught hvalid passes
  have hconcludes := startWithin_concludes hvalid passes system memory _ rfl
  change StateT.run (startWithin s passes).run (.fresh s.plan system memory) = _ at hrun
  rw [hrun] at hconcludes
  cases hconcludes with
  | @collected r report final hexec h =>
      obtain ⟨hunseen, ⟨front, rest, hend⟩, honly⟩ := (hexec.ok hcaught hbegun).read h
      refine ⟨fun k _ hwish hread => ?_, fun before after hsplit => ?_, fun before after hsplit => ?_⟩
      · -- the read has not seen the wish, so it is not there yet
        have hfalse := hwish front.length false (by rw [hend]; simp)
        exact absurd (hfalse.2 (hread front rest hend)) (by decide)
      · exact absurd (by rw [hsplit]; simp) hunseen
      · obtain ⟨hr, hlooks⟩ := honly before after hsplit
        refine ⟨report, r, rfl, hexec, hr, hlooks, h.history, ?_, ?_, ?_⟩
        · rw [h.summary.finalState, h.machine]
          rfl
        · rw [h.summary.failedFrom, h.machine]
          rfl
        · rw [h.summary.verdict, h.machine, h.phases, h.results]
          exact verdictOf_stopped r.phases r.results none r
  | @failed r o phase report final hexec _ h =>
      have hstop : Calm r ∨ Caught r := hexec.error hcaught hbegun
      refine ⟨fun k _ _ _ => .inl ⟨report, rfl, h.fails⟩, fun before after hsplit => ?_,
        fun before after hsplit => ?_⟩
      · refine ⟨report, rfl, h.fails, ?_⟩
        rcases hstop with hcalm | hstopped
        · have hmem := h.mem_of_failed (m := .looked true) (by rw [hsplit]; simp) nofun nofun
          exact absurd rfl (hcalm _ hmem).1
        · obtain ⟨_, hhalted⟩ :=
            hexec.error (execute_spec s.backend.keeps_nothing hvalid passes) hbegun o rfl
          exact hstopped.cutShort hhalted.accounts.nodup h hsplit
      · have hmem := h.mem_of_failed (m := .entered .resultsCollected) (by rw [hsplit]; simp) nofun
          nofun
        rcases hstop with hcalm | hstopped
        · exact absurd rfl (hcalm _ hmem).2
        · exact absurd hmem hstopped.not_collected
  | @broken r cause final hexec hmoves =>
      have hstop := hexec.error hcaught hbegun
      have hcalm : Calm r := by
        cases cause with
        | duration cause => exact hstop.2
        | unfinished => exact hstop.1
      rw [hmoves]
      refine ⟨fun k hk hwish _ => ?_, fun before after hsplit => ?_, fun before after hsplit => ?_⟩
      · cases cause with
        | duration cause =>
            exact .inr ⟨cause, rfl, hstop.1, fun hmem => (hcalm _ hmem).1 rfl⟩
        | unfinished =>
            have hle := hwish.looks_le fun m hm => (hcalm m hm).1
            exact absurd (Nat.le_trans hstop.2 hle) (Nat.not_le_of_lt hk)
      · exact absurd rfl (hcalm (.looked true) (by rw [hsplit]; simp)).1
      · exact absurd rfl (hcalm (.entered .resultsCollected) (by rw [hsplit]; simp)).2

end Run

/-- A host on which no program ends of itself, and somebody wishes to cancel the run as soon as a
suite has been started. -/
def Sample.stubborn : Host Sample.Disk :=
  { Sample.host with
    tryWait := fun _ => pure none
    cancelRequested := do return decide (2 ≤ (← get).next) }

/-- The plan of the small lab is carried out on that host. -/
def Sample.stubbornSetup : Setup Sample.Disk FaultScript :=
  ⟨Sample.stubborn, Scripted.backend Sample.stubborn, (Sample.setup Sample.planned).plan⟩

/-- In the small lab the wish is seen while the run waits for the next look at its suite. -/
theorem Run.cancelled_while_active : ∃ report final before after,
    (startWithin Sample.stubbornSetup 20).run (.fresh Sample.stubbornSetup.plan {} {}) =
      (.ok report, final) ∧
    Wished 18 final.moves.toList ∧ final.moves.toList = before ++ .looked true :: after ∧
    report.summary.Fails ∧ CutShort before after report.summary.suites ∧
    (after.filterMap Move.cancelled?).map SuiteRun.suite = ["unit"] := by
  have hv : Sample.stubbornSetup.plan.config.validate = .ok () := Sample.setup_valid Sample.planned
  have hcheck : (match (startWithin Sample.stubbornSetup 20).run
      (.fresh Sample.stubbornSetup.plan {} {}) with
    | (.ok _, final) => decide (Wished 18 final.moves.toList) &&
        final.moves.toList[19]?.any Move.sees &&
        ((final.moves.toList.drop 20).filterMap Move.cancelled?).map SuiteRun.suite == ["unit"]
    | (.error _, _) => false) = true := by decide +kernel
  split at hcheck
  · next report final hrun =>
      simp only [Bool.and_eq_true, decide_eq_true_eq, beq_iff_eq, Option.any_eq_true] at hcheck
      obtain ⟨⟨hwish, m, hget, hsees⟩, hunit⟩ := hcheck
      rw [Move.sees_eq_true.1 hsees] at hget
      obtain ⟨hlt, hget⟩ := List.getElem?_eq_some_iff.1 hget
      have hsplit : final.moves.toList =
          final.moves.toList.take 19 ++ .looked true :: final.moves.toList.drop 20 := by
        rw [← hget, ← List.drop_eq_getElem_cons hlt, List.take_append_drop]
      obtain ⟨-, hcut, -⟩ := startWithin_cancelled hv hrun
      obtain ⟨_, hreport, hfails, hshort⟩ := hcut _ _ hsplit
      cases hreport
      exact ⟨report, final, _, _, hrun, hwish, hsplit, hfails, hshort, hunit⟩
  · cases hcheck

open Sample in
/-- Under `planned_patient` and `redirectFailsOnce`, starting the devices fails once, and somebody
wishes during the wait before the second attempt that the run is cancelled.  The clock does not get
to the end of the wait, so no look sees the wish: the run breaks off and makes no report. -/
theorem Run.wish_unanswered : ∃ final,
    (setup planned_patient).plan.config.validate = .ok () ∧
    (startWithin (setup planned_patient) 20).run
        (.fresh (setup planned_patient).plan {} redirectFailsOnce) =
      (.error (.duration .pastClock), final) ∧
    Wished 9 final.moves.toList ∧ .entered .resultsCollected ∉ final.moves.toList := by
  have hstop : ((startWithin (setup planned_patient) 20).run
      (.fresh (setup planned_patient).plan {} redirectFailsOnce)).1 =
      .error (.duration .pastClock) := by decide +kernel
  have hwish : Wished 9 ((startWithin (setup planned_patient) 20).run
      (.fresh (setup planned_patient).plan {} redirectFailsOnce)).2.moves.toList := by
    decide +kernel
  have hnever : ((startWithin (setup planned_patient) 20).run
      (.fresh (setup planned_patient).plan {} redirectFailsOnce)).2.moves.toList.all
      (fun | .entered phase => phase != .resultsCollected | _ => true) = true := by decide +kernel
  generalize hrun : (startWithin (setup planned_patient) 20).run
    (.fresh (setup planned_patient).plan {} redirectFailsOnce) = ending at hstop hwish hnever ⊢
  obtain ⟨result, final⟩ := ending
  obtain rfl : result = _ := hstop
  exact ⟨final, setup_valid planned_patient, rfl, hwish,
    fun hmem => absurd (List.all_eq_true.1 hnever _ hmem) (by decide)⟩

end DeviceLab
