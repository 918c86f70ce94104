import Mathlib.Algebra.Order.BigOperators.Group.List
import Mathlib.Algebra.Order.Group.Nat
import DeviceLab.Proofs.Digits
import DeviceLab.Proofs.Numerals

/-! # Totals of a scan

A tool tells how many tests have failed by a line for each of them, or by a line with their number,
and likewise for those that have passed.  A total is the sum of both, clamped to the greatest count
(`RuleSet.Total.clamped`): a sum of any length is clamped only once.  A number that is itself
greater than the greatest count is not clamped, though; it counts for nothing
(`Rule.countOf_digits`).  So a total is what was reported unless there is such a number, or the
others reach the clamp anyway (`RuleSet.Total.faithful`), and a total of zero may stand for a very
great number (`RuleSet.Total.zero`).

* `classify_totals`: the totals of every judgement.
* `failures_dropped`: a suite with failures that is judged a success. -/

namespace DeviceLab

open Decimal Text

/-! ### The number in a line -/

/-- What a reported number counts for: nothing when it is greater than the greatest count. -/
def kept (n : Nat) : Nat := if n ≤ maxCount then n else 0

theorem kept_eq_zero_iff {n : Nat} : kept n = 0 ↔ n = 0 ∨ maxCount < n := by
  unfold kept
  split <;> omega

namespace Rule

/-- The number of a hit is read from what its rule has captured. -/
theorem count_of_captured {rule : Rule} {line digits : List Char} {hit : RuleHit}
    (hneeds : rule.tally.needsCapture = true) (hhit : rule.check line = some hit)
    (hcaptured : rule.captured? line = some digits) : hit.count = countOf digits := by
  unfold check at hhit
  unfold captured? at hcaptured
  cases htest : rule.test with
  | text needle => simp [htest] at hcaptured
  | pattern matcher =>
      simp only [htest] at hhit hcaptured
      obtain ⟨slots, hsearch, rfl⟩ := Option.map_eq_some_iff.1 hhit
      rw [hsearch, Option.bind_some] at hcaptured
      simp only [hneeds, if_true, hcaptured, Option.map_some, Option.getD_some]

theorem dropWhile_isBlank {digits : List Char} (h : ∀ c ∈ digits, isDigit c = true) :
    digits.dropWhile isBlank = digits := by
  cases digits with
  | nil => rfl
  | cons c rest =>
      rw [List.dropWhile_cons_of_neg]
      rw [isBlank_of_digit (h c (List.mem_cons_self ..))]
      decide

theorem trim_digits {digits : List Char} (h : ∀ c ∈ digits, isDigit c = true) :
    trim digits = digits := by
  have hreverse : ∀ c ∈ digits.reverse, isDigit c = true := fun c hc => h c (List.mem_reverse.1 hc)
  rw [trim, trimStart, dropWhile_isBlank h, trimEnd, dropWhile_isBlank hreverse, List.reverse_reverse]

/-- A row of digits is read as the number that it tells. -/
theorem natural?_digits {limit : Nat} {digits : List Char} (hne : digits ≠ [])
    (h : ∀ c ∈ digits, isDigit c = true) :
    natural? limit digits = if ofDigits digits < limit then some (ofDigits digits) else none := by
  have hwrites : Writes digits (ofDigits digits) := ⟨digits, .inl rfl, hne, h, rfl⟩
  split
  · next hlt => exact natural?_eq_some_iff.2 ⟨hwrites, hlt⟩
  · next hnot =>
      refine natural?_eq_none_iff.2 fun n hn => ?_
      rw [hn.unique hwrites]
      exact Nat.not_lt.1 hnot

/-- As a count, it is dropped when it is too great. -/
theorem countOf_digits {digits : List Char} (hne : digits ≠ [])
    (h : ∀ c ∈ digits, isDigit c = true) : countOf digits = kept (ofDigits digits) := by
  unfold countOf kept
  rw [trim_digits h, natural?_digits hne h]
  simp only [Nat.lt_succ_iff]
  split <;> rfl

end Rule

/-! ### What the lines report -/

namespace RuleSet

variable {table : RuleSet} {one add : Tally}

/-- The lines that count by a tally: those whose first rule has it. -/
def linesFor (table : RuleSet) (tally : Tally) (lines : List (List Char)) : List (List Char) :=
  lines.filter fun line => (table.ruleFor? line).any (·.tally = tally)

/-- The number that the first rule for a line captures in it. -/
def numberIn (table : RuleSet) (line : List Char) : Nat :=
  ofDigits (((table.ruleFor? line).bind fun rule => rule.captured? line).getD [])

/-- The numbers in the lines that count by a tally. -/
def numbersFor (table : RuleSet) (tally : Tally) (lines : List (List Char)) : List Nat :=
  (table.linesFor tally lines).map table.numberIn

/-- What the lines report: one for each line of the one tally, and the numbers of the other. -/
def reported (table : RuleSet) (one add : Tally) (lines : List (List Char)) : Nat :=
  (table.linesFor one lines).length + (table.numbersFor add lines).sum

/-- The same without the numbers that are too great. -/
def reportedKept (table : RuleSet) (one add : Tally) (lines : List (List Char)) : Nat :=
  (table.linesFor one lines).length + ((table.numbersFor add lines).map kept).sum

/-- A hit of a rule that captures digits adds one, or the number if it is not too great. -/
theorem amount_of_hit (one : Tally) {line : List Char} {rule : Rule} {hit : RuleHit}
    (hrule : rule.CapturesDigits) (hadd : add.needsCapture = true)
    (hhit : rule.check line = some hit) :
    hit.amount one add = if rule.tally = one then 1 else
      if rule.tally = add then kept (ofDigits ((rule.captured? line).getD [])) else 0 := by
  unfold RuleHit.amount
  rw [(Rule.check_spec hhit).1]
  split
  · rfl
  split
  · next htally =>
      rw [← htally] at hadd
      obtain ⟨digits, hcaptured, hne, hdigits⟩ := hrule hadd line (Option.isSome_of_eq_some hhit)
      rw [hcaptured, Option.getD_some, ← Rule.countOf_digits hne hdigits]
      exact Rule.count_of_captured hadd hhit hcaptured
  · rfl

/-- What one more line reports. -/
theorem reportedKept_cons (line : List Char) (rest : List (List Char)) :
    table.reportedKept one add (line :: rest) =
      (if (table.ruleFor? line).any (·.tally = one) then 1 else 0) +
        (if (table.ruleFor? line).any (·.tally = add) then kept (table.numberIn line) else 0) +
          table.reportedKept one add rest := by
  unfold reportedKept numbersFor linesFor
  rw [List.filter_cons, List.filter_cons]
  split <;> split <;> simp <;> omega

/-- The hits of a table that captures digits add up to what the lines report, but for numbers that
are too great. -/
theorem sum_amount (h : table.CapturesDigits) (hone : one.needsCapture = false)
    (hadd : add.needsCapture = true) (lines : List (List Char)) :
    ((table.hits lines).map (RuleHit.amount one add)).sum = table.reportedKept one add lines := by
  have hdiffer : one ≠ add := by
    rintro rfl
    rw [hone] at hadd
    cases hadd
  induction lines with
  | nil => rfl
  | cons line rest ih =>
      rw [reportedKept_cons, ← ih]
      cases hrule : table.ruleFor? line with
      | none => simp [hits, check_eq_none_iff.2 hrule]
      | some rule =>
          obtain ⟨hit, hhit⟩ := Option.isSome_iff_exists.1 (applies_of_ruleFor hrule)
          have hcheck := check_eq_some_iff.2 ⟨rule, hrule, hhit⟩
          have hamount :=
            amount_of_hit one (h rule (List.mem_of_find?_eq_some hrule)) hadd hhit
          have hnumber : table.numberIn line = ofDigits ((rule.captured? line).getD []) := by
            simp [numberIn, hrule]
          rw [hits, List.filterMap_cons_some hcheck, List.map_cons, List.sum_cons, hamount, hnumber]
          by_cases hfirst : rule.tally = one
          · simp [hits, hfirst, hdiffer]
          · simp [hits, hfirst]

end RuleSet

/-! ### The totals of a judgement -/

/-- A sum without the numbers that are too great is clamped to the same as the sum with them, unless
there is such a number and the rest does not reach the clamp. -/
theorem min_kept_eq_iff (n : Nat) (numbers : List Nat) :
    min (n + (numbers.map kept).sum) maxCount = min (n + numbers.sum) maxCount ↔
      (∀ x ∈ numbers, x ≤ maxCount) ∨ maxCount ≤ n + (numbers.map kept).sum := by
  by_cases hall : ∀ x ∈ numbers, x ≤ maxCount
  · have hsame : numbers.map kept = numbers :=
      (List.map_congr_left fun x hx => if_pos (hall x hx)).trans (List.map_id' numbers)
    exact iff_of_true (by rw [hsame]) (.inl hall)
  · obtain ⟨x, hx, hgreat⟩ : ∃ x ∈ numbers, maxCount < x := by simpa using hall
    have hsum : x ≤ numbers.sum := List.le_sum_of_mem hx
    rw [or_iff_right hall]
    omega

/-- What a total says about the lines that it was made of. -/
structure RuleSet.Total (table : RuleSet) (one add : Tally) (lines : List (List Char))
    (total : Nat) : Prop where
  /-- It is the clamped sum of the reports, but for numbers that are too great. -/
  clamped : total = min (table.reportedKept one add lines) maxCount
  /-- It is the clamped sum of all reports unless such a number is missing in it. -/
  faithful : total = min (table.reported one add lines) maxCount ↔
    (∀ n ∈ table.numbersFor add lines, n ≤ maxCount) ∨ maxCount ≤ table.reportedKept one add lines
  /-- It is zero when nothing is reported, or only numbers that are too great. -/
  zero : total = 0 ↔ table.linesFor one lines = [] ∧
    ∀ n ∈ table.numbersFor add lines, n = 0 ∨ maxCount < n

/-- The sum of the hits is such a total. -/
theorem RuleSet.total_of_hits {table : RuleSet} (h : table.CapturesDigits) {one add : Tally}
    (hone : one.needsCapture = false) (hadd : add.needsCapture = true)
    (lines : List (List Char)) :
    table.Total one add lines
      (min ((table.hits lines).map (RuleHit.amount one add)).sum maxCount) := by
  rw [sum_amount h hone hadd]
  constructor
  case clamped => rfl
  case faithful => exact min_kept_eq_iff _ _
  case zero =>
    have hpositive : 0 < maxCount := by decide
    have hzero : min (table.reportedKept one add lines) maxCount = 0 ↔
        table.reportedKept one add lines = 0 := by omega
    rw [hzero, reportedKept, Nat.add_eq_zero_iff, List.length_eq_zero_iff,
      List.sum_eq_zero_iff_forall_eq_nat]
    simp [kept_eq_zero_iff]

/-- The totals of every judgement by a `table` that reads numbers only from rows of digits
(`CapturesDigits`). -/
theorem classify_totals {table : RuleSet} (h : table.CapturesDigits) (text : String)
    (exitCode : Option Int) (policy : ExitPolicy) :
    table.Total .fail .addFails (lines text.toList) (classify text exitCode table policy).failed ∧
      table.Total .pass .addPasses (lines text.toList)
        (classify text exitCode table policy).passed := by
  rw [classify_eq]
  exact ⟨RuleSet.total_of_hits h rfl rfl _, RuleSet.total_of_hits h rfl rfl _⟩

/-- Two numbers that are counts, and whose sum is none. -/
def Sample.twoTotals : String :=
  "INFO | Failed: 18446744073709551615\nINFO | Failed: 1\n"

/-- The sum is clamped. -/
theorem classify_totals_clamped :
    (RuleSet.builtin "xpcshell").CapturesDigits ∧
      (classify Sample.twoTotals (some 1) (.builtin "xpcshell") {}).failed =
        18446744073709551615 := by
  have htable := RuleSet.builtin_capturesDigits "xpcshell"
  refine ⟨htable, ?_⟩
  rw [(classify_totals htable Sample.twoTotals (some 1) {}).1.clamped]
  simp only [Sample.twoTotals, String.reduceToList]
  decide +kernel

/-- One passed test, and more failures than can be counted. -/
def Sample.overflow : String := "INFO Passed: 1\nINFO Failed: 18446744073709551616\n"

/-- The failures are dropped, and the suite is judged a success. -/
theorem failures_dropped :
    (RuleSet.builtin "mochitest").CapturesDigits ∧
      (RuleSet.builtin "mochitest").reported .fail .addFails (lines Sample.overflow.toList) =
        18446744073709551616 ∧
      (classify Sample.overflow (some 0) (.builtin "mochitest") {}).failed = 0 ∧
      (classify Sample.overflow (some 0) (.builtin "mochitest") {}).severity = .success := by
  have hjudged : classify Sample.overflow (some 0) (.builtin "mochitest") {} =
      { severity := .success, passed := 1, failed := 0, exitCode := some 0, ambiguous := false,
        rerunRequested := false } := by
    simp only [classify_eq, Sample.overflow, String.reduceToList]
    decide +kernel
  rw [hjudged]
  refine ⟨RuleSet.builtin_capturesDigits _, ?_, rfl, rfl⟩
  simp only [Sample.overflow, String.reduceToList]
  decide +kernel

end DeviceLab
