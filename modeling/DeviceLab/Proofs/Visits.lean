import DeviceLab.Proofs.MemoryIndependence
import DeviceLab.Proofs.BackendSteps

/-! # Steps that are watched

What a run has done to its devices cannot be read off its end: a device forgets the emulators it
had, and the supervisor gives all processes up.  So each step of a backend is written down with the
station before and after it.  A run with such a backend is the run without it, apart from what is
written down.

* `Visit`, `Backend.observed`: a step that is written down, and the backend that does so.
* `observed_mirrors`: it does the same as the backend that it is made of.
* `Run.log`: the steps of a run, each with the attempt to start the devices that it belongs to.
* `Visit.started`, `emulators`: the processes launched in a step, and the emulators of a device. -/

namespace DeviceLab

variable {σ β α ε : Type}

/-- A station without what the backend remembers. -/
def Station.bare (t : Station σ β) : Station σ Unit := t.seen fun _ => ()

/-- A step of a backend, with the station before and after it. -/
structure Visit (σ : Type) where
  kind : CallKind
  before : Station σ Unit
  after : Station σ Unit

/-- The handles that were given out during a step, in order. -/
def Visit.started (v : Visit σ) : List ProcessId :=
  (v.after.lab.journal.drop v.before.lab.journal.length).filterMap fun
    | .launched id _ => some id
    | _ => none

/-! ### Writing steps down -/

namespace Backend

/-- Takes a step and writes it down. -/
def observe (kind : CallKind) (step : StateM (Station σ β) α) :
    StateM (Station σ (β × List (Visit σ))) α := fun s =>
  let (a, t) := step ⟨s.device, s.memory.1, s.lab⟩
  (a, ⟨t.device, (t.memory, s.memory.2 ++ [⟨kind, s.bare, t.bare⟩]), t.lab⟩)

/-- The same steps, each written down. -/
def observed (b : Backend σ β) : Backend σ (β × List (Visit σ)) where
  acquire := observe .acquire b.acquire.run
  launch := observe .launch b.launch.run
  redirect := observe .redirect b.redirect.run
  abortStart := observe .abortStart b.abortStart
  checkHealth := observe .checkHealth b.checkHealth.run
  startLogCapture := observe .startLogCapture b.startLogCapture.run
  install package path := observe .install (b.install package path).run
  collectDiagnostics := observe .collectDiagnostics b.collectDiagnostics
  teardown := observe .teardown b.teardown

/-- What a step that is written down gives and leaves, by what the step itself gives and leaves. -/
theorem observe_run {kind : CallKind} {step : StateM (Station σ β) α}
    {t : Station σ (β × List (Visit σ))} {a : α} {u : Station σ β}
    (h : step.run ⟨t.device, t.memory.1, t.lab⟩ = (a, u)) :
    (observe kind step).run t =
      (a, ⟨u.device, (u.memory, t.memory.2 ++ [⟨kind, t.bare, u.bare⟩]), u.lab⟩) := by
  obtain ⟨rfl, rfl⟩ : (step.run ⟨t.device, t.memory.1, t.lab⟩).1 = a ∧
      (step.run ⟨t.device, t.memory.1, t.lab⟩).2 = u := by rw [h]; exact ⟨rfl, rfl⟩
  rfl

theorem observe_mirrors (kind : CallKind) (step : StateM (Station σ β) α) :
    DeviceLab.Mirrors (Station.seen Prod.fst) (observe kind step) step := fun _ => rfl

/-- Nothing is different but what is remembered. -/
theorem observed_mirrors (b : Backend σ β) : b.observed.Mirrors Prod.fst b where
  acquire := observe_mirrors _ _
  launch := observe_mirrors _ _
  redirect := observe_mirrors _ _
  abortStart := observe_mirrors _ _
  checkHealth := observe_mirrors _ _
  startLogCapture := observe_mirrors _ _
  install _ _ := observe_mirrors _ _
  collectDiagnostics := observe_mirrors _ _
  teardown := observe_mirrors _ _

end Backend

/-- The same setup, with steps that are written down. -/
def Setup.observed (s : Setup σ β) : Setup σ (β × List (Visit σ)) :=
  ⟨s.host, s.backend.observed, s.plan⟩

/-! ### The steps of a run -/

namespace Move

/-- The attempt to start the devices that is going on after some moves; `n` was before them. -/
def lastAttempt (n : Nat) : List Move → Nat
  | [] => n
  | .attempted m :: rest => lastAttempt m rest
  | _ :: rest => lastAttempt n rest

/-- For each call among some moves, the attempt that was going on. -/
def attemptsOfCalls (n : Nat) : List Move → List Nat
  | [] => []
  | .attempted m :: rest => attemptsOfCalls m rest
  | .called _ :: rest => n :: attemptsOfCalls n rest
  | _ :: rest => attemptsOfCalls n rest

theorem attemptsOfCalls_append (n : Nat) (moves others : List Move) :
    attemptsOfCalls n (moves ++ others) =
      attemptsOfCalls n moves ++ attemptsOfCalls (lastAttempt n moves) others := by
  induction moves generalizing n with
  | nil => rfl
  | cons move rest ih =>
      cases move with
      | called call => exact congrArg (n :: ·) (ih n)
      | _ => exact ih _

theorem lastAttempt_append (n : Nat) (moves others : List Move) :
    lastAttempt n (moves ++ others) = lastAttempt (lastAttempt n moves) others := by
  induction moves generalizing n with
  | nil => rfl
  | cons move rest ih => cases move <;> exact ih _

/-- There is one attempt for each call. -/
theorem length_attemptsOfCalls (n : Nat) (moves : List Move) :
    (attemptsOfCalls n moves).length = (moves.filterMap call?).length := by
  induction moves generalizing n with
  | nil => rfl
  | cons move rest ih =>
      cases move with
      | called call => exact congrArg Nat.succ (ih n)
      | _ => exact ih _

theorem attemptsOfCalls_of_call?_eq_none {n : Nat} {move : Move} (h : move.call? = none) :
    attemptsOfCalls n [move] = [] := by
  cases move with
  | called call => cases h
  | _ => rfl

end Move

/-- Steps in their order, each with the attempt to start the devices that was going on. -/
abbrev VisitLog (σ : Type) := List (Nat × Visit σ)

/-- The emulators launched for the device at an index, in order: whatever was started by a step that
launches them. -/
def VisitLog.emulators (log : VisitLog σ) (index : Nat) : List ProcessId :=
  (log.filter fun entry => entry.2.kind == .launch && entry.2.before.device.index == index).flatMap
    fun entry => entry.2.started

/-- The kind of a step, and the place of its device. -/
def Visit.mark (v : Visit σ) : CallKind × Nat := (v.kind, v.before.device.index)

/-- The kind of a call, and the place of its device. -/
def BackendCall.mark (c : BackendCall) : CallKind × Nat := (c.kind, c.index)

namespace Run

/-- The attempt to start the devices that is going on, or the last one. -/
def attempt (r : Run σ β) : Nat := Move.lastAttempt 0 r.moves.toList

/-- The steps of a run that were written down. -/
def log (r : Run σ (β × List (Visit σ))) : VisitLog σ :=
  (Move.attemptsOfCalls 0 r.moves.toList).zip r.memory.2

/-- What was written down are the calls of the run. -/
def Tallied (r : Run σ (β × List (Visit σ))) : Prop :=
  r.memory.2.map Visit.mark = r.calls.map BackendCall.mark

section Log

variable {r r' : Run σ (β × List (Visit σ))} {call : BackendCall} {v : Visit σ} {move : Move}

theorem Tallied.length (h : Tallied r) :
    (Move.attemptsOfCalls 0 r.moves.toList).length = r.memory.2.length := by
  rw [Move.length_attemptsOfCalls, ← @List.length_map _ _ r.memory.2 Visit.mark, h,
    List.length_map]
  rfl

/-- Every step has its place in the log. -/
theorem Tallied.log_snd (h : Tallied r) : r.log.map Prod.snd = r.memory.2 :=
  List.map_snd_zip (Nat.le_of_eq h.length.symm)

/-- A call adds one entry to the log. -/
theorem Tallied.log_visit (h : Tallied r) (hmemory : r'.memory.2 = r.memory.2 ++ [v])
    (hmoves : r'.moves = r.moves.push (.called call)) : r'.log = r.log ++ [(r.attempt, v)] := by
  simp only [log, hmemory, hmoves, Array.toList_push, Move.attemptsOfCalls_append,
    Move.attemptsOfCalls]
  exact List.zip_append h.length

theorem Tallied.visit (h : Tallied r) (hmemory : r'.memory.2 = r.memory.2 ++ [v])
    (hmoves : r'.moves = r.moves.push (.called call)) (hmark : v.mark = call.mark) :
    Tallied r' := by
  rw [Tallied, calls, hmemory, hmoves, Array.toList_push, List.map_append, h, List.filterMap_append,
    List.map_append, List.map_singleton, hmark]
  rfl

theorem attempt_called (hmoves : r'.moves = r.moves.push (.called call)) :
    r'.attempt = r.attempt := by
  rw [attempt, attempt, hmoves, Array.toList_push, Move.lastAttempt_append]
  rfl

/-- Other moves add nothing. -/
theorem log_push (hmove : move.call? = none) :
    log { r with moves := r.moves.push move } = r.log := by
  simp only [log, Array.toList_push, Move.attemptsOfCalls_append,
    Move.attemptsOfCalls_of_call?_eq_none hmove, List.append_nil]

theorem Tallied.push (h : Tallied r) (hmove : move.call? = none) :
    Tallied { r with moves := r.moves.push move } := by
  rw [Tallied, calls, Array.toList_push, List.filterMap_append, List.filterMap_cons_none hmove,
    List.filterMap_nil, List.append_nil]
  exact h

end Log

end Run

end DeviceLab
