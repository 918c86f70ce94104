import Mathlib.Data.List.Perm.Basic
import DeviceLab.Classifier.Scan

/-! # Merged verdicts and clamped counts

The worse of two severities is their least upper bound, so the worst of any number of them is a
least upper bound as well (`Severity.aggregate_le_iff`) and does not depend on their order
(`Severity.aggregate_perm`).  Counts are added up with a clamp at each step; clamping the whole sum
once comes to the same (`addCounts_min`). -/

namespace DeviceLab

namespace Severity

theorem le_refl (a : Severity) : a ≤ a := Nat.le_refl a.rank

theorem le_trans {a b c : Severity} (hab : a ≤ b) (hbc : b ≤ c) : a ≤ c := Nat.le_trans hab hbc

theorem le_antisymm {a b : Severity} (hab : a ≤ b) (hba : b ≤ a) : a = b := by
  revert hab hba
  cases a <;> cases b <;> decide

theorem success_le (a : Severity) : .success ≤ a := Nat.zero_le a.rank

theorem le_success_iff {a : Severity} : a ≤ .success ↔ a = .success := by
  cases a <;> decide

theorem join_le_iff {a b c : Severity} : a.join b ≤ c ↔ a ≤ c ∧ b ≤ c := by
  cases a <;> cases b <;> cases c <;> decide

theorem le_join_left (a b : Severity) : a ≤ a.join b := (join_le_iff.1 (le_refl _)).1

theorem le_join_right (a b : Severity) : b ≤ a.join b := (join_le_iff.1 (le_refl _)).2

theorem join_fatal (a : Severity) : a.join .fatal = .fatal := by
  cases a <;> rfl

theorem join_success (a : Severity) : a.join .success = a := by
  cases a <;> rfl

theorem join_eq_success {a b : Severity} : a.join b = .success ↔ a = .success ∧ b = .success := by
  rw [← le_success_iff, join_le_iff, le_success_iff, le_success_iff]

theorem join_right_comm (a b c : Severity) : (a.join b).join c = (a.join c).join b := by
  cases a <;> cases b <;> cases c <;> rfl

theorem aggregate_concat (verdicts : List Severity) (v : Severity) :
    aggregate (verdicts ++ [v]) = (aggregate verdicts).join v := by
  rw [aggregate, List.foldl_append, List.foldl_cons, List.foldl_nil, aggregate]

theorem foldl_join_le_iff {a b : Severity} {verdicts : List Severity} :
    verdicts.foldl join a ≤ b ↔ a ≤ b ∧ ∀ v ∈ verdicts, v ≤ b := by
  induction verdicts generalizing a with
  | nil => simp
  | cons v rest ih => rw [List.foldl_cons, ih, join_le_iff, and_assoc, List.forall_mem_cons]

/-- The worst of some severities is their least upper bound. -/
theorem aggregate_le_iff {verdicts : List Severity} {b : Severity} :
    aggregate verdicts ≤ b ↔ ∀ v ∈ verdicts, v ≤ b := by
  rw [aggregate, foldl_join_le_iff, and_iff_right (success_le b)]

theorem le_aggregate {verdicts : List Severity} {v : Severity} (h : v ∈ verdicts) :
    v ≤ aggregate verdicts := aggregate_le_iff.1 (le_refl _) v h

/-- The worst verdict is a success only if all of them are. -/
theorem aggregate_eq_success {verdicts : List Severity} :
    aggregate verdicts = .success ↔ ∀ v ∈ verdicts, v = .success := by
  simp only [← le_success_iff, aggregate_le_iff]

/-- The worst of some severities does not depend on their order. -/
theorem aggregate_perm {xs ys : List Severity} (h : xs.Perm ys) : aggregate xs = aggregate ys :=
  h.foldl_eq' (fun x _ y _ z => join_right_comm z x y) .success

end Severity

/-- A sum that is clamped already may be clamped again when more is added. -/
theorem addCounts_min (a b : Nat) : addCounts (min a maxCount) b = min (a + b) maxCount := by
  unfold addCounts
  omega

end DeviceLab
