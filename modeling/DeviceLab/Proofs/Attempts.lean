import DeviceLab.Proofs.Folds
import DeviceLab.Proofs.Phases

/-! # The attempts of one suite

What the moves of a run say about one suite, from its first launch to its record.

* `launches`: how many attempts have been launched.
* `Underway`: an attempt runs, and all before it have been judged.
* `Judged`: the last attempt has ended and been judged.
* `Closed`: a record of the suite agrees with its moves.

None of them depends on the moves of other suites (`Underway.append`, `Judged.append`,
`Closed.append`).  An attempt goes from `Underway` to `Judged` (`Underway.judged`), from there to
the next one (`Judged.launched`) or to a record (`Judged.closed`); what is lost or cancelled is
recorded right away (`Underway.closed`), and so is a suite that is never launched
(`closed_blocked`). -/

namespace DeviceLab

/-- The number of attempts that a suite may have. -/
def Config.runLimit (c : Config) (suite : String) : Nat :=
  ((c.suite? suite).map SuiteSpec.runLimit).getD 1

/-- The suite that a launch or a judgement is about. -/
def Move.suite? : Move → Option String
  | .launched suite _ _ => some suite
  | .ended run _ _ => some run.suite
  | _ => none

/-- How many attempts of a suite have been launched. -/
def launches (suite : String) (moves : List Move) : Nat :=
  moves.countP fun
    | .launched name _ _ => name == suite
    | _ => false

/-- Another attempt was asked for when there could be no more, by an attempt that ended of itself.
-/
def Exhausted (c : Config) (suite : String) (moves : List Move) : Prop :=
  ∃ run judgement output, .ended run judgement output ∈ moves ∧ run.suite = suite ∧
    run.attempt = c.runLimit suite ∧ run.timeoutReason = none ∧
    Run.wantsRerun (c.suite? suite) judgement output = true

/-- The last of some attempts of a suite ended of itself, was recognised, and asked for no other. -/
def EndedWell (c : Config) (suite : String) (attempts : Nat) (judgement : Classification)
    (moves : List Move) : Prop :=
  ∃ run output, .ended run judgement output ∈ moves ∧ run.suite = suite ∧
    run.attempt = attempts ∧ run.timeoutReason = none ∧ judgement.ambiguous = false ∧
    Run.wantsRerun (c.suite? suite) judgement output = false

/-- An attempt of a suite runs, and all before it have been judged. -/
structure Underway (c : Config) (suite : String) (attempt : Nat) (process : ProcessId)
    (moves : List Move) : Prop where
  launches : launches suite moves = attempt
  started : .launched suite attempt process ∈ moves
  pos : 1 ≤ attempt
  le : attempt ≤ c.runLimit suite
  ended : ∀ run judgement output, .ended run judgement output ∈ moves → run.suite = suite →
    run.attempt < attempt

/-- An attempt has ended and been judged, and so have all before it. -/
structure Judged (c : Config) (run : SuiteRun) (judgement : Classification) (output : String)
    (moves : List Move) : Prop where
  launches : launches run.suite moves = run.attempt
  started : .launched run.suite run.attempt run.process ∈ moves
  pos : 1 ≤ run.attempt
  le : run.attempt ≤ c.runLimit run.suite
  mem : .ended run judgement output ∈ moves
  ended : ∀ run' judgement' output', .ended run' judgement' output' ∈ moves →
    run'.suite = run.suite → run'.attempt < run.attempt ∨
      run' = run ∧ judgement' = judgement ∧ output' = output

/-- A record of a suite agrees with its moves. -/
structure Closed (c : Config) (x : SuiteSummary) (moves : List Move) : Prop where
  attempts : x.attempts = launches x.suite moves
  blocked : x.attempts = 0 ↔ x.status = .blocked
  le : x.attempts ≤ c.runLimit x.suite
  exhausted : x.failureKind = some .rerunExhausted ↔ Exhausted c x.suite moves
  failed : x.verdict = .success → x.failureKind = none
  endedWell : x.failureKind = none → x.status = .classified ∧
    ∃ judgement, x.classification = some judgement ∧
      EndedWell c x.suite x.attempts judgement moves

/-- What is recorded of the end of an attempt: limits come first, then the wish for another attempt,
then output that is not recognised. -/
structure Fitting (c : Config) (run : SuiteRun) (judgement : Classification) (output : String)
    (kind : Option FailureKind) : Prop where
  exhausted : kind = some .rerunExhausted ↔ run.timeoutReason = none ∧
    Run.wantsRerun (c.suite? run.suite) judgement output = true ∧
    run.attempt = c.runLimit run.suite
  none : kind = none → run.timeoutReason = none ∧ judgement.ambiguous = false ∧
    Run.wantsRerun (c.suite? run.suite) judgement output = false

variable {c : Config} {suite output : String} {attempt : Nat} {process : ProcessId}
  {judgement : Classification}
  {run : SuiteRun} {moves new : List Move} {x : SuiteSummary}

/-! ### Verdicts -/

theorem FailureKind.severity_ne_success (kind : FailureKind) : kind.severity ≠ .success := by
  cases kind <;> decide

/-! ### Moves of other suites -/

theorem launches_append (suite : String) (moves new : List Move) :
    launches suite (moves ++ new) = launches suite moves + launches suite new :=
  List.countP_append

theorem launches_eq_zero (h : ∀ m ∈ new, m.suite? ≠ some suite) : launches suite new = 0 := by
  refine List.countP_eq_zero.2 fun m hm => ?_
  cases m with
  | launched name attempt process =>
      have hne : name ≠ suite := fun heq => h _ hm (congrArg some heq)
      simpa using hne
  | _ => simp

theorem mem_ended_append (h : ∀ m ∈ new, m.suite? ≠ some suite) (hrun : run.suite = suite) :
    .ended run judgement output ∈ moves ++ new ↔ .ended run judgement output ∈ moves := by
  rw [List.mem_append, or_iff_left]
  exact fun hm => h _ hm (congrArg some hrun)

theorem exhausted_append (h : ∀ m ∈ new, m.suite? ≠ some suite) :
    Exhausted c suite (moves ++ new) ↔ Exhausted c suite moves := by
  constructor
  · rintro ⟨run, judgement, output, hmem, hsuite, hrest⟩
    exact ⟨run, judgement, output, (mem_ended_append h hsuite).1 hmem, hsuite, hrest⟩
  · rintro ⟨run, judgement, output, hmem, hsuite, hrest⟩
    exact ⟨run, judgement, output, (mem_ended_append h hsuite).2 hmem, hsuite, hrest⟩

theorem Underway.append (h : Underway c suite attempt process moves)
    (hnew : ∀ m ∈ new, m.suite? ≠ some suite) :
    Underway c suite attempt process (moves ++ new) where
  launches := by rw [launches_append, launches_eq_zero hnew, Nat.add_zero, h.launches]
  started := List.mem_append_left _ h.started
  pos := h.pos
  le := h.le
  ended run judgement output hmem hsuite :=
    h.ended run judgement output ((mem_ended_append hnew hsuite).1 hmem) hsuite

theorem Judged.append (h : Judged c run judgement output moves)
    (hnew : ∀ m ∈ new, m.suite? ≠ some run.suite) :
    Judged c run judgement output (moves ++ new) where
  launches := by rw [launches_append, launches_eq_zero hnew, Nat.add_zero, h.launches]
  started := List.mem_append_left _ h.started
  pos := h.pos
  le := h.le
  mem := List.mem_append_left _ h.mem
  ended run' judgement' output' hmem hsuite :=
    h.ended run' judgement' output' ((mem_ended_append hnew hsuite).1 hmem) hsuite

theorem Closed.append (h : Closed c x moves) (hnew : ∀ m ∈ new, m.suite? ≠ some x.suite) :
    Closed c x (moves ++ new) where
  attempts := by rw [launches_append, launches_eq_zero hnew, Nat.add_zero, h.attempts]
  blocked := h.blocked
  le := h.le
  exhausted := by rw [exhausted_append hnew, h.exhausted]
  failed := h.failed
  endedWell hkind := by
    obtain ⟨hstatus, judgement, hjudgement, run, output, hmem, hrest⟩ := h.endedWell hkind
    exact ⟨hstatus, judgement, hjudgement, run, output, List.mem_append_left _ hmem, hrest⟩

/-! ### From one attempt to the next -/

/-- A suite without moves goes on with its first attempt. -/
theorem underway_first (h : ∀ m ∈ moves, m.suite? ≠ some suite) (hlimit : 1 ≤ c.runLimit suite)
    (process : ProcessId) :
    Underway c suite 1 process (moves ++ [Move.launched suite 1 process]) where
  launches := by
    rw [launches_append, launches_eq_zero h, Nat.zero_add]
    simp [DeviceLab.launches]
  started := List.mem_append_right _ (List.mem_singleton.2 rfl)
  pos := Nat.le_refl 1
  le := hlimit
  ended run judgement output hmem hsuite := by
    rcases List.mem_append.1 hmem with hmem | hmem
    · exact absurd (congrArg some hsuite) (h _ hmem)
    · simp at hmem

/-- The judgement of the attempt that runs. -/
theorem Underway.judged (h : Underway c run.suite run.attempt run.process moves) :
    Judged c run judgement output (moves ++ [Move.ended run judgement output]) where
  launches := by
    rw [launches_append, h.launches]
    simp [DeviceLab.launches]
  started := List.mem_append_left _ h.started
  pos := h.pos
  le := h.le
  mem := List.mem_append_right _ (List.mem_singleton.2 rfl)
  ended run' judgement' output' hmem hsuite := by
    rcases List.mem_append.1 hmem with hmem | hmem
    · exact .inl (h.ended _ _ _ hmem hsuite)
    · exact .inr (by simpa using hmem)

/-- The launch of another attempt. -/
theorem Judged.launched (h : Judged c run judgement output moves)
    (hlimit : run.attempt < c.runLimit run.suite) (process : ProcessId) :
    Underway c run.suite (run.attempt + 1) process
      (moves ++ [Move.launched run.suite (run.attempt + 1) process]) where
  launches := by
    rw [launches_append, h.launches]
    simp [DeviceLab.launches]
  started := List.mem_append_right _ (List.mem_singleton.2 rfl)
  pos := Nat.succ_pos _
  le := hlimit
  ended run' judgement' output' hmem hsuite := by
    rcases List.mem_append.1 hmem with hmem | hmem
    · rcases h.ended _ _ _ hmem hsuite with hlt | ⟨rfl, -⟩
      · exact Nat.lt_succ_of_lt hlt
      · exact Nat.lt_succ_self _
    · simp at hmem

/-! ### Records -/

/-- No attempt before the last one allowed can have used up the attempts. -/
theorem Underway.not_exhausted (h : Underway c suite attempt process moves) :
    ¬Exhausted c suite moves := by
  rintro ⟨run, judgement, output, hmem, hsuite, hattempt, -⟩
  have hlt := h.ended run judgement output hmem hsuite
  have hle := h.le
  omega

theorem Judged.exhausted_iff (h : Judged c run judgement output moves) :
    Exhausted c run.suite moves ↔ run.timeoutReason = none ∧
      Run.wantsRerun (c.suite? run.suite) judgement output = true ∧
      run.attempt = c.runLimit run.suite := by
  constructor
  · rintro ⟨run', judgement', output', hmem, hsuite, hattempt, htime, hwants⟩
    rcases h.ended run' judgement' output' hmem hsuite with hlt | ⟨rfl, rfl, rfl⟩
    · have hle := h.le
      omega
    · exact ⟨htime, hwants, hattempt⟩
  · rintro ⟨htime, hwants, hattempt⟩
    exact ⟨run, judgement, output, h.mem, rfl, hattempt, htime, hwants⟩

/-- The record of an attempt that was judged. -/
theorem Judged.closed (h : Judged c run judgement output moves) {kind : Option FailureKind}
    (hkind : Fitting c run judgement output kind) (durationMs : Nat) :
    Closed c (.classified run.suite run.category run.device run.attempt judgement kind durationMs)
      moves where
  attempts := h.launches.symm
  blocked := by
    have hpos := h.pos
    exact iff_of_false (by simp [SuiteSummary.classified]; omega) (by simp [SuiteSummary.classified])
  le := h.le
  exhausted := hkind.exhausted.trans h.exhausted_iff.symm
  failed hverdict := by
    cases kind with
    | none => rfl
    | some kind =>
        simp only [SuiteSummary.classified, Option.map_some, Option.getD_some,
          Severity.join_eq_success] at hverdict
        exact absurd hverdict.2 kind.severity_ne_success
  endedWell hnone := by
    obtain ⟨htime, hambiguous, hwants⟩ := hkind.none hnone
    exact ⟨rfl, judgement, rfl, run, output, h.mem, rfl, rfl, htime, hambiguous, hwants⟩

/-- The record of an attempt that was not followed to its end. -/
theorem Underway.closed (h : Underway c x.suite x.attempts process moves) (hstatus : x.status ≠ .blocked)
    {kind : FailureKind} (hkind : x.failureKind = some kind) (hexhausted : kind ≠ .rerunExhausted)
    (hverdict : x.verdict ≠ .success) : Closed c x moves where
  attempts := h.launches.symm
  blocked := by
    have hpos := h.pos
    exact iff_of_false (by omega) hstatus
  le := h.le
  exhausted := by
    refine iff_of_false (fun heq => hexhausted ?_) h.not_exhausted
    rw [hkind] at heq
    exact Option.some.inj heq
  failed heq := absurd heq hverdict
  endedWell heq := by rw [hkind] at heq; cases heq

/-- The record of a suite that was never launched. -/
theorem closed_blocked (h : ∀ m ∈ moves, m.suite? ≠ some suite) (category device : String)
    {kind : FailureKind} (hkind : kind ≠ .rerunExhausted) (message : String) :
    Closed c (.blocked suite category device kind message) moves where
  attempts := (launches_eq_zero h).symm
  blocked := iff_of_true rfl rfl
  le := Nat.zero_le _
  exhausted := by
    refine iff_of_false (fun heq => hkind (Option.some.inj heq)) ?_
    rintro ⟨run, judgement, output, hmem, hsuite, -⟩
    exact h _ hmem (congrArg some hsuite)
  failed heq := absurd heq kind.severity_ne_success
  endedWell heq := nomatch heq

end DeviceLab
