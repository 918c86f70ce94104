import DeviceLab.Dispatch.SuiteRun
import Mathlib.Data.Option.Basic

/-! # The steps of an attempt

An attempt is told that its process has ended and that its output has been judged, in any order and
as often as anyone likes.  What it then knows is read off the row of what it was told: the first
end, and the first judgement after that.

* `SuiteRun.Step`, `SuiteRun.take`, `SuiteRun.after`: what an attempt is told, and what a row of it
  leaves.
* `firstEnd?`, `firstJudgement?`: what counts of a row.
* `Answered`: what one step comes to; `answered`: it is taken in its order, or refused.
* `Told`: what an attempt knows after a row of steps; `IsNew.told`: this is so for an attempt that
  had taken none before. -/

namespace DeviceLab

namespace SuiteState

variable {state : SuiteState}

theorem eq_running (h : state.canFollow .exited = true) : state = .running := by
  cases state with
  | running => rfl
  | exited => cases h
  | classified => cases h

theorem eq_exited (h : state.canFollow .classified = true) : state = .exited := by
  cases state with
  | running => cases h
  | exited => rfl
  | classified => cases h

end SuiteState

namespace SuiteRun

/-- An attempt that has taken no step. -/
structure IsNew (run : SuiteRun) : Prop where
  state : run.state = .running
  outcome : run.outcome = none
  timeoutReason : run.timeoutReason = none
  classification : run.classification = none

/-- What an attempt is told. -/
inductive Step where
  | ended (outcome : ExitOutcome) (reason : Option String)
  | judged (c : Classification)

namespace Step

/-- The state that the step leads to. -/
def target : Step → SuiteState
  | ended .. => .exited
  | judged _ => .classified

/-- The judgement that an attempt is told. -/
def judgement? : Step → Option Classification
  | ended .. => none
  | judged c => some c

end Step

/-- The first end in a row, with the reason if the harness has brought it about. -/
def firstEnd? : List Step → Option (ExitOutcome × Option String)
  | [] => none
  | .ended outcome reason :: _ => some (outcome, reason)
  | .judged _ :: row => firstEnd? row

/-- The first judgement after the first end in a row. -/
def firstJudgement? : List Step → Option Classification
  | [] => none
  | .ended .. :: row => row.findSome? Step.judgement?
  | .judged _ :: row => firstJudgement? row

/-- An attempt takes a step. -/
def take (run : SuiteRun) : Step → Except SuiteTransitionError SuiteRun
  | .ended outcome reason => run.markExited outcome reason
  | .judged c => run.markClassified c

/-- The attempt after a step; one that is refused leaves it as it is. -/
def tried (run : SuiteRun) (step : Step) : SuiteRun :=
  match run.take step with
  | .ok next => next
  | .error _ => run

/-- The attempt after a row of steps. -/
def after (run : SuiteRun) (row : List Step) : SuiteRun := row.foldl tried run

variable {run : SuiteRun} {step : Step}

@[simp]
theorem after_nil (run : SuiteRun) : run.after [] = run := rfl

@[simp]
theorem after_cons (run : SuiteRun) (step : Step) (row : List Step) :
    run.after (step :: row) = (run.tried step).after row := rfl

theorem after_append (run : SuiteRun) (front back : List Step) :
    run.after (front ++ back) = (run.after front).after back :=
  List.foldl_append

/-! ### One step -/

/-- An attempt that runs can be marked as ended. -/
theorem markExited_ok (hstate : run.state = .running) (outcome : ExitOutcome)
    (reason : Option String) :
    run.markExited outcome reason =
      .ok { run with state := .exited, outcome := some outcome, timeoutReason := reason } := by
  simp [markExited, advance, hstate, SuiteState.canFollow, Except.map]

/-- An attempt that has ended can be marked as judged. -/
theorem markClassified_ok (hstate : run.state = .exited) (c : Classification) :
    run.markClassified c = .ok { run with state := .classified, classification := some c } := by
  simp [markClassified, advance, hstate, SuiteState.canFollow, Except.map]

theorem take_refused (h : run.state.canFollow step.target = false) :
    run.take step = .error ⟨run.suite, run.state, step.target⟩ := by
  cases step with
  | ended outcome reason =>
    have hrefused : run.state.canFollow .exited = false := h
    simp [take, markExited, advance, hrefused, Except.map, Step.target]
  | judged c =>
    have hrefused : run.state.canFollow .classified = false := h
    simp [take, markClassified, advance, hrefused, Except.map, Step.target]

theorem tried_refused (h : run.state.canFollow step.target = false) : run.tried step = run := by
  rw [tried, take_refused h]

theorem tried_ended (hstate : run.state = .running) (outcome : ExitOutcome)
    (reason : Option String) :
    run.tried (.ended outcome reason) =
      { run with state := .exited, outcome := some outcome, timeoutReason := reason } := by
  rw [tried, take, markExited_ok hstate]

theorem tried_judged (hstate : run.state = .exited) (c : Classification) :
    run.tried (.judged c) = { run with state := .classified, classification := some c } := by
  rw [tried, take, markClassified_ok hstate]

/-- What a step comes to: it is taken from one state to the one after it, or it is refused and
changes nothing. -/
inductive Answered (run : SuiteRun) (step : Step) : Prop where
  | ended (source : run.state = .running) (target : (run.tried step).state = .exited)
      (taken : run.take step = .ok (run.tried step))
  | judged (source : run.state = .exited) (target : (run.tried step).state = .classified)
      (taken : run.take step = .ok (run.tried step))
  | refused (cause : run.take step = .error ⟨run.suite, run.state, step.target⟩)
      (same : run.tried step = run)

theorem answered (run : SuiteRun) (step : Step) : Answered run step := by
  cases hfollow : run.state.canFollow step.target with
  | false => exact .refused (take_refused hfollow) (tried_refused hfollow)
  | true =>
    cases step with
    | ended outcome reason =>
      have hstate : run.state = .running := SuiteState.eq_running hfollow
      have htried := tried_ended hstate outcome reason
      exact .ended hstate (by rw [htried]) (by rw [htried]; exact markExited_ok hstate outcome reason)
    | judged c =>
      have hstate : run.state = .exited := SuiteState.eq_exited hfollow
      have htried := tried_judged hstate c
      exact .judged hstate (by rw [htried]) (by rw [htried]; exact markClassified_ok hstate c)

/-! ### A row of steps -/

/-- An attempt that has been judged stays as it is. -/
theorem after_classified (hstate : run.state = .classified) (row : List Step) :
    run.after row = run := by
  induction row with
  | nil => rfl
  | cons step row ih =>
    have hrefused : run.state.canFollow step.target = false := by
      rw [hstate]
      cases step <;> rfl
    rw [after_cons, tried_refused hrefused, ih]

/-- An attempt that has ended waits for its judgement. -/
theorem after_exited (hstate : run.state = .exited) (row : List Step) :
    run.after row = match row.findSome? Step.judgement? with
      | none => run
      | some c => { run with state := .classified, classification := some c } := by
  induction row with
  | nil => rfl
  | cons step row ih =>
    rw [after_cons]
    cases step with
    | ended outcome reason =>
      have hrefused : run.state.canFollow (Step.ended outcome reason).target = false := by
        rw [hstate]
        rfl
      rw [tried_refused hrefused, ih]
      rfl
    | judged c =>
      rw [tried_judged hstate, after_classified rfl]
      rfl

/-- An attempt that runs waits for its end. -/
theorem after_running (hstate : run.state = .running) (row : List Step) :
    run.after row = match firstEnd? row with
      | none => run
      | some (outcome, reason) =>
        let exited :=
          { run with state := .exited, outcome := some outcome, timeoutReason := reason }
        match firstJudgement? row with
        | none => exited
        | some c => { exited with state := .classified, classification := some c } := by
  induction row with
  | nil => rfl
  | cons step row ih =>
    rw [after_cons]
    cases step with
    | ended outcome reason =>
      rw [tried_ended hstate, after_exited rfl]
      rfl
    | judged c =>
      have hrefused : run.state.canFollow (Step.judged c).target = false := by
        rw [hstate]
        rfl
      rw [tried_refused hrefused, ih]
      rfl

theorem firstJudgement?_of_none {row : List Step} (h : firstEnd? row = none) :
    firstJudgement? row = none := by
  induction row with
  | nil => rfl
  | cons step row ih =>
    cases step with
    | ended outcome reason => cases h
    | judged c => exact ih h

/-- A judgement that is taken is the one that stays. -/
theorem classification_of_taken {front back : List Step} {c : Classification} {next : SuiteRun}
    (h : (run.after front).markClassified c = .ok next) :
    (run.after (front ++ .judged c :: back)).classification = some c := by
  rw [after_append, after_cons]
  cases answered (run.after front) (.judged c) with
  | ended source target taken =>
    have hrefused : (run.after front).state.canFollow (Step.judged c).target = false := by
      rw [source]
      rfl
    rw [tried_refused hrefused, source] at target
    cases target
  | judged source target taken =>
    rw [after_classified target, tried_judged source]
  | refused cause same =>
    rw [take, h] at cause
    cases cause

/-- What is known of an attempt after a row of steps: the first end, and the first judgement after
it, which is the first one that is taken. -/
structure Told (run : SuiteRun) (row : List Step) : Prop where
  outcome : (run.after row).outcome = (firstEnd? row).map Prod.fst
  reason : (run.after row).timeoutReason = (firstEnd? row).bind Prod.snd
  classification : (run.after row).classification = firstJudgement? row
  taken : ∀ front c back next, row = front ++ Step.judged c :: back →
    (run.after front).markClassified c = .ok next → (run.after row).classification = some c
  ended : (run.after row).outcome.isSome ↔ (run.after row).state ≠ .running
  judged : (run.after row).classification.isSome ↔ (run.after row).state = .classified
  /-- It is that of the first end, unless the harness has brought that about. -/
  exitCode : (run.after row).exitCode = match firstEnd? row with
    | some (outcome, none) => outcome.code
    | _ => none

theorem IsNew.told (h : run.IsNew) (row : List Step) : Told run row := by
  have hafter := after_running h.state row
  have htaken : ∀ front c back next, row = front ++ Step.judged c :: back →
      (run.after front).markClassified c = .ok next → (run.after row).classification = some c := by
    rintro front c back next rfl hnext
    exact classification_of_taken hnext
  cases hend : firstEnd? row with
  | none =>
    have hnone := firstJudgement?_of_none hend
    simp only [hend] at hafter
    refine ⟨?_, ?_, ?_, htaken, ?_, ?_, ?_⟩
    all_goals rw [hafter]
    · simp [h.outcome, hend]
    · simp [h.timeoutReason, hend]
    · rw [h.classification, hnone]
    · simp [h.outcome, h.state]
    · simp [h.classification, h.state]
    · simp [exitCode, h.outcome, hend]
  | some first =>
    obtain ⟨outcome, reason⟩ := first
    have hcode : ∀ run : SuiteRun, run.outcome = some outcome → run.timeoutReason = reason →
        run.exitCode = match firstEnd? row with
          | some (outcome, none) => outcome.code
          | _ => none := by
      intro run houtcome hreason
      rw [exitCode, houtcome, hreason, hend]
      cases reason <;> rfl
    cases hjudgement : firstJudgement? row with
    | none =>
      simp only [hend, hjudgement] at hafter
      refine ⟨?_, ?_, ?_, htaken, ?_, ?_, ?_⟩
      all_goals rw [hafter]
      · simp [hend]
      · simp [hend]
      · rw [hjudgement, h.classification]
      · simp
      · simp [h.classification]
      · exact hcode _ rfl rfl
    | some c =>
      simp only [hend, hjudgement] at hafter
      refine ⟨?_, ?_, ?_, htaken, ?_, ?_, ?_⟩
      all_goals rw [hafter]
      · simp [hend]
      · simp [hend]
      · rw [hjudgement]
      · simp
      · simp
      · exact hcode _ rfl rfl

end SuiteRun

end DeviceLab
