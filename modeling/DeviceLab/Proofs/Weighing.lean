import Mathlib.Algebra.BigOperators.Group.List.Basic
import Mathlib.Algebra.GroupWithZero.Nat
import Mathlib.Algebra.Order.BigOperators.Group.List
import Mathlib.Algebra.Order.Group.Nat
import DeviceLab.Proofs.Folds
import DeviceLab.Summary.Basic

/-! # What a summary makes of its records

The verdict of a summary is the least severity that covers all of its records, and its totals are
sums that are clamped once.  Neither depends on the order of the records, and with more of them
neither gets better.

* `RunSummary.Covers`: a severity is at least as bad as every record.
* `RunSummary.Weighs`: what a summary says of its records.
* `RunSummary.NoBetter`: a summary is not better than another one.
* `RunSummary.make_verdict_and_totals`: the statement for every summary. -/

namespace DeviceLab

theorem Severity.exitCode_mono {a b : Severity} (h : a ≤ b) :
    a.ciStatus.exitCode ≤ b.ciStatus.exitCode := by
  revert h
  cases a <;> cases b <;> decide

namespace RunSummary

variable {phases phases' : List PhaseOutcome} {suites suites' : List SuiteSummary}
  {failedFrom : Option Phase} {v : Severity}

/-! ### Verdicts -/

/-- A severity is at least as bad as every phase and every suite, and fatal if the run failed. -/
structure Covers (phases : List PhaseOutcome) (suites : List SuiteSummary)
    (failedFrom : Option Phase) (v : Severity) : Prop where
  phases : ∀ p ∈ phases, p.severity ≤ v
  suites : ∀ x ∈ suites, x.verdict ≤ v
  failed : failedFrom ≠ none → .fatal ≤ v

/-- The verdict is the least severity that covers all records. -/
theorem verdictOf_le_iff :
    verdictOf phases suites failedFrom ≤ v ↔ Covers phases suites failedFrom v := by
  have hworst : Severity.aggregate (phases.map (·.severity) ++ suites.map (·.verdict)) ≤ v ↔
      (∀ p ∈ phases, p.severity ≤ v) ∧ ∀ x ∈ suites, x.verdict ≤ v := by
    rw [Severity.aggregate_le_iff, List.forall_mem_append, List.forall_mem_map,
      List.forall_mem_map]
  unfold verdictOf
  cases failedFrom with
  | none =>
      rw [if_neg (by decide), hworst]
      exact ⟨fun h => ⟨h.1, h.2, fun hfailed => absurd rfl hfailed⟩, fun h => ⟨h.phases, h.suites⟩⟩
  | some phase =>
      rw [if_pos (by rfl), Severity.join_le_iff, hworst]
      exact ⟨fun h => ⟨h.1.1, h.1.2, fun _ => h.2⟩,
        fun h => ⟨⟨h.phases, h.suites⟩, h.failed (Option.some_ne_none phase)⟩⟩

theorem verdictOf_covers :
    Covers phases suites failedFrom (verdictOf phases suites failedFrom) :=
  verdictOf_le_iff.1 (Severity.le_refl _)

/-- Fewer records are covered as well. -/
theorem Covers.subset (h : Covers phases' suites' failedFrom v) (hphases : phases ⊆ phases')
    (hsuites : suites ⊆ suites') : Covers phases suites failedFrom v :=
  ⟨fun p hp => h.phases p (hphases hp), fun x hx => h.suites x (hsuites hx), h.failed⟩

theorem verdictOf_mono (hphases : phases ⊆ phases') (hsuites : suites ⊆ suites') :
    verdictOf phases suites failedFrom ≤ verdictOf phases' suites' failedFrom :=
  verdictOf_le_iff.2 (verdictOf_covers.subset hphases hsuites)

/-! ### Totals -/

theorem foldl_addCounts (counts : List Nat) (n : Nat) :
    counts.foldl addCounts (min n maxCount) = min (n + counts.sum) maxCount := by
  induction counts generalizing n with
  | nil => rfl
  | cons count rest ih => rw [List.foldl_cons, addCounts_min, ih, List.sum_cons, Nat.add_assoc]

/-- A clamped sum of any length is the sum, clamped once. -/
theorem total_eq (counts : List Nat) : total counts = min counts.sum maxCount := by
  simpa [total] using foldl_addCounts counts 0

/-- It does not depend on the order of the counts. -/
theorem total_perm {xs ys : List Nat} (h : xs.Perm ys) : total xs = total ys := by
  rw [total_eq, total_eq, h.sum_eq]

/-- The sum of a number over the suites that have been judged. -/
def sumOf (count : Classification → Nat) (suites : List SuiteSummary) : Nat :=
  ((suites.filterMap SuiteSummary.classification).map count).sum

/-- A suite that has not been judged counts for nothing. -/
theorem sumOf_eq (count : Classification → Nat) (suites : List SuiteSummary) :
    sumOf count suites = (suites.map fun x => (x.classification.map count).getD 0).sum := by
  unfold sumOf
  induction suites with
  | nil => rfl
  | cons x rest ih =>
      rw [List.map_cons, List.sum_cons, ← ih]
      cases hjudged : x.classification with
      | none =>
          rw [List.filterMap_cons_none hjudged, Option.map_none, Option.getD_none, Nat.zero_add]
      | some c =>
          rw [List.filterMap_cons_some hjudged, List.map_cons, List.sum_cons]
          rfl

theorem sumOf_perm (count : Classification → Nat) (h : suites.Perm suites') :
    sumOf count suites = sumOf count suites' :=
  ((h.filterMap _).map count).sum_eq

theorem sumOf_mono (count : Classification → Nat) (h : suites.Subperm suites') :
    sumOf count suites ≤ sumOf count suites' := by
  obtain ⟨between, hperm, hsublist⟩ := h
  rw [← sumOf_perm count hperm]
  exact ((hsublist.filterMap _).map count).sum_le_sum fun _ _ => Nat.zero_le _

/-! ### Summaries -/

/-- The number of suites whose verdict is success. -/
def clean (suites : List SuiteSummary) : Nat := suites.countP fun x => x.verdict = .success

/-- The number of the others. -/
def unclean (suites : List SuiteSummary) : Nat := suites.countP fun x => x.verdict ≠ .success

/-- What a summary says of its records. -/
structure Weighs (phases : List PhaseOutcome) (suites : List SuiteSummary)
    (failedFrom : Option Phase) (s : RunSummary) : Prop where
  covers : Covers phases suites failedFrom s.verdict
  least : ∀ v, Covers phases suites failedFrom v → s.verdict ≤ v
  ciStatus : s.ciStatus = s.verdict.ciStatus
  exitCode : s.exitCode = s.verdict.ciStatus.exitCode
  testsPassed : s.testsPassed = min (sumOf Classification.passed suites) (2 ^ 64 - 1)
  testsFailed : s.testsFailed = min (sumOf Classification.failed suites) (2 ^ 64 - 1)
  suitesBlocked : s.suitesBlocked = suites.countP fun x => x.status = .blocked
  humanSummary : s.humanSummary =
    s!"{s.ciStatus.label}: {clean suites}/{suites.length} suites clean" ++
      (failedFrom.map fun phase => s!", run failed during {phase.name}").getD ""

/-- The second summary is not better than the first one in anything. -/
structure NoBetter (a b : RunSummary) : Prop where
  verdict : a.verdict ≤ b.verdict
  ciStatus : a.ciStatus.exitCode ≤ b.ciStatus.exitCode
  exitCode : a.exitCode ≤ b.exitCode
  testsPassed : a.testsPassed ≤ b.testsPassed
  testsFailed : a.testsFailed ≤ b.testsFailed
  suitesBlocked : a.suitesBlocked ≤ b.suitesBlocked
  unclean : unclean a.suites ≤ unclean b.suites

section

variable (finalState : Phase) (devices : List DeviceSummary) (durationMs : Nat)
  (createdAt : Timestamp)

theorem weighs_make : Weighs phases suites failedFrom
    (make finalState failedFrom phases suites devices durationMs createdAt) := by
  constructor
  case covers => exact verdictOf_covers
  case least => exact fun v h => verdictOf_le_iff.2 h
  case ciStatus => rfl
  case exitCode => rfl
  case testsPassed => exact (total_eq _).trans (by rw [sumOf_eq]; rfl)
  case testsFailed => exact (total_eq _).trans (by rw [sumOf_eq]; rfl)
  case suitesBlocked => exact (List.countP_eq_length_filter ..).symm
  case humanSummary =>
    have hclean : (suites.filter fun x => x.verdict == .success).length = clean suites :=
      (List.countP_eq_length_filter ..).symm
    unfold make wordsFor
    dsimp only
    rw [hclean]
    cases failedFrom <;> rfl

theorem make_perm (hphases : phases.Perm phases') (hsuites : suites.Perm suites') :
    make finalState failedFrom phases' suites' devices durationMs createdAt =
      { make finalState failedFrom phases suites devices durationMs createdAt with
        phases := phases', suites := suites' } := by
  have hverdict : verdictOf phases' suites' failedFrom = verdictOf phases suites failedFrom :=
    Severity.le_antisymm (verdictOf_mono hphases.symm.subset hsuites.symm.subset)
      (verdictOf_mono hphases.subset hsuites.subset)
  have htotal : ∀ count : SuiteSummary → Nat,
      total (suites'.map count) = total (suites.map count) :=
    fun count => (total_perm (hsuites.map count)).symm
  have hfilter : ∀ p : SuiteSummary → Bool,
      (suites'.filter p).length = (suites.filter p).length :=
    fun p => (hsuites.filter p).length_eq.symm
  unfold make wordsFor
  rw [hverdict, htotal, htotal, hfilter, hfilter, hsuites.length_eq]

theorem make_noBetter (hphases : phases.Subperm phases') (hsuites : suites.Subperm suites') :
    NoBetter (make finalState failedFrom phases suites devices durationMs createdAt)
      (make finalState failedFrom phases' suites' devices durationMs createdAt) := by
  have hverdict : verdictOf phases suites failedFrom ≤ verdictOf phases' suites' failedFrom :=
    verdictOf_mono hphases.subset hsuites.subset
  have hfewer : Weighs phases suites failedFrom
      (make finalState failedFrom phases suites devices durationMs createdAt) :=
    weighs_make ..
  have hmore : Weighs phases' suites' failedFrom
      (make finalState failedFrom phases' suites' devices durationMs createdAt) :=
    weighs_make ..
  constructor
  case verdict => exact hverdict
  case ciStatus => exact Severity.exitCode_mono hverdict
  case exitCode => exact Int.ofNat_le.2 (Severity.exitCode_mono hverdict)
  case testsPassed =>
    rw [hfewer.testsPassed, hmore.testsPassed]
    exact min_le_min_right _ (sumOf_mono _ hsuites)
  case testsFailed =>
    rw [hfewer.testsFailed, hmore.testsFailed]
    exact min_le_min_right _ (sumOf_mono _ hsuites)
  case suitesBlocked =>
    rw [hfewer.suitesBlocked, hmore.suitesBlocked]
    exact hsuites.countP_le _
  case unclean => exact hsuites.countP_le _

/-- The verdict of a summary is the least severity that covers its phases, its suites and the
failure of the run; status and exit code are those of the verdict, totals are exact sums that are
clamped once, and the words tell the status and how many suites are clean (`Weighs`).  In whatever
order the `phases` and `suites` stand, the summary is otherwise the same, and with more of them it
is `NoBetter`. -/
theorem make_verdict_and_totals (failedFrom : Option Phase) (phases : List PhaseOutcome)
    (suites : List SuiteSummary) :
    Weighs phases suites failedFrom
      (make finalState failedFrom phases suites devices durationMs createdAt) ∧
    (∀ phases' suites', phases.Perm phases' → suites.Perm suites' →
      make finalState failedFrom phases' suites' devices durationMs createdAt =
        { make finalState failedFrom phases suites devices durationMs createdAt with
          phases := phases', suites := suites' }) ∧
    ∀ phases' suites', phases.Subperm phases' → suites.Subperm suites' →
      NoBetter (make finalState failedFrom phases suites devices durationMs createdAt)
        (make finalState failedFrom phases' suites' devices durationMs createdAt) :=
  ⟨weighs_make .., fun _ _ hphases hsuites => make_perm _ _ _ _ hphases hsuites,
    fun _ _ hphases hsuites => make_noBetter _ _ _ _ hphases hsuites⟩

end

end RunSummary

end DeviceLab
