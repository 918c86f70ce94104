import DeviceLab.Device.Scripted
import Mathlib.Data.List.Induction

/-! # What a fault script answers

A script is told of faults, cleared and asked, in any order.  Each point keeps its own account, the
fault put there last and how many of the calls since then it was for, so that the answer to a call
is a matter of the history of its point alone.

* `FaultScript.Call`, `FaultScript.after`: what is done with a script, and what a row of it leaves.
* `FaultScript.turn`: what one call makes of the account of one point.
* `FaultScript.PutAt`: the fault that was put at a point last, with the calls since then.
* `at?_after_eq_some_iff`: the account of a point, told by its history. -/

namespace DeviceLab.FaultScript

variable {s : FaultScript} {point other : FaultPoint} {fault : DeviceFault} {n : Nat}

/-! ### The account of one point -/

theorem at?_put (s : FaultScript) (point other : FaultPoint) (fault : DeviceFault) (n : Nat) :
    (s.put other fault n).at? point = if other = point then some (fault, n) else s.at? point := by
  unfold at? put
  by_cases h : other = point
  · simp [h]
  · -- what is dropped would not be found
    have hfilter : (s.entries.filter fun entry => entry.1 != other).find? (·.1 == point) =
        s.entries.find? (·.1 == point) := by
      rw [List.find?_filter]
      congr 1
      funext entry
      by_cases hentry : entry.1 = point <;> simp [hentry, Ne.symm h]
    simp [h, hfilter]

section

variable {device : String} {package : Option String}

theorem check_of_none (h : s.at? point = none) : s.check point device package = (none, s) := by
  rw [check, h]

/-- A call that a fault is not for leaves the script as it is. -/
theorem check_of_refused (h : s.at? point = some (fault, n))
    (hfor : fault.appliesTo device package = false) :
    s.check point device package = (none, s) := by
  simp [check, h, hfor]

theorem check_of_used (h : s.at? point = some (fault, n))
    (hfor : fault.appliesTo device package = true) :
    s.check point device package =
      (if fault.failCount.any (· < n + 1) then none else some fault, s.put point fault (n + 1)) := by
  simp [check, h, hfor]

end

/-! ### Calls -/

/-- What is done with a script. -/
inductive Call where
  | inject (point : FaultPoint) (fault : DeviceFault)
  | clear
  | check (point : FaultPoint) (device : String) (package : Option String)
  deriving DecidableEq, Repr

/-- The script after a call. -/
def next (s : FaultScript) : Call → FaultScript
  | .inject point fault => s.inject point fault
  | .clear => s.clear
  | .check point device package => (s.check point device package).2

/-- The script after a row of calls. -/
def after (s : FaultScript) (calls : List Call) : FaultScript := calls.foldl next s

/-- What a call makes of the account of a point. -/
def turn (point : FaultPoint) (account : Option (DeviceFault × Nat)) :
    Call → Option (DeviceFault × Nat)
  | .inject other fault => if other = point then some (fault, 0) else account
  | .clear => none
  | .check other device package =>
    if other = point then
      account.map fun (fault, n) =>
        (fault, if fault.appliesTo device package then n + 1 else n)
    else account

/-- Each point keeps its own account. -/
theorem at?_next (s : FaultScript) (point : FaultPoint) (call : Call) :
    (s.next call).at? point = turn point (s.at? point) call := by
  cases call with
  | inject other fault => exact at?_put s point other fault 0
  | clear => rfl
  | check other device package =>
    simp only [next, turn]
    cases haccount : s.at? other with
    | none =>
      rw [check_of_none haccount]
      by_cases h : other = point
      · simp [← h, haccount]
      · simp [h]
    | some account =>
      obtain ⟨fault, n⟩ := account
      cases hfor : fault.appliesTo device package with
      | false =>
        rw [check_of_refused haccount hfor]
        by_cases h : other = point
        · simp [← h, haccount, hfor]
        · simp [h]
      | true =>
        rw [check_of_used haccount hfor]
        by_cases h : other = point
        · simp [← h, haccount, hfor, at?_put]
        · simp [h, at?_put]

@[simp]
theorem after_nil (s : FaultScript) : s.after [] = s := rfl

@[simp]
theorem after_cons (s : FaultScript) (call : Call) (calls : List Call) :
    s.after (call :: calls) = (s.next call).after calls := rfl

theorem after_append (s : FaultScript) (calls later : List Call) :
    s.after (calls ++ later) = (s.after calls).after later := List.foldl_append

theorem at?_after (s : FaultScript) (point : FaultPoint) (calls : List Call) :
    (s.after calls).at? point = calls.foldl (turn point) (s.at? point) := by
  induction calls generalizing s with
  | nil => rfl
  | cons call calls ih => exact (ih (s.next call)).trans (by rw [at?_next]; rfl)

/-- A call fails when a fault for it is in force that has not been used up. -/
theorem check_eq_some_iff {device : String} {package : Option String} :
    (s.check point device package).1 = some fault ↔
      ∃ n, s.at? point = some (fault, n) ∧ fault.appliesTo device package = true ∧
        ∀ limit ∈ fault.failCount, n < limit := by
  cases haccount : s.at? point with
  | none => simp [check_of_none haccount]
  | some account =>
    obtain ⟨c, n⟩ := account
    cases hfor : c.appliesTo device package with
    | false =>
      rw [check_of_refused haccount hfor]
      refine iff_of_false nofun ?_
      rintro ⟨n', heq, happlies, -⟩
      obtain ⟨rfl, rfl⟩ : c = fault ∧ n = n' := by simpa using heq
      exact absurd (hfor.symm.trans happlies) (by decide)
    | true =>
      rw [check_of_used haccount hfor]
      have hspent : c.failCount.any (· < n + 1) = false ↔ ∀ limit ∈ c.failCount, n < limit := by
        cases c.failCount with
        | none => simp
        | some limit =>
          simp only [Option.any_some, decide_eq_false_iff_not, Option.mem_def, Option.some.injEq,
            forall_eq']
          omega
      cases hfound : c.failCount.any (· < n + 1) with
      | false =>
        refine ⟨fun h => ?_, fun ⟨n', heq, _⟩ => ?_⟩
        · obtain rfl : c = fault := by simpa using h
          exact ⟨n, rfl, hfor, hspent.1 hfound⟩
        · obtain ⟨rfl, rfl⟩ : c = fault ∧ n = n' := by simpa using heq
          rfl
      | true =>
        refine iff_of_false nofun ?_
        rintro ⟨n', heq, -, hleft⟩
        obtain ⟨rfl, rfl⟩ : c = fault ∧ n = n' := by simpa using heq
        exact absurd ((hspent.2 hleft).symm.trans hfound) (by decide)

/-! ### The history of one point -/

namespace Call

/-- The call takes away what was at a point. -/
def renews (point : FaultPoint) : Call → Bool
  | .inject other _ => other == point
  | .clear => true
  | .check .. => false

/-- The call asks about a point, and a fault is for it. -/
def uses (point : FaultPoint) (fault : DeviceFault) : Call → Bool
  | .check other device package => other == point && fault.appliesTo device package
  | _ => false

end Call

/-- The fault that was put at a point last, with the calls since then; no script was cleared after
that. -/
def PutAt (calls : List Call) (point : FaultPoint) (fault : DeviceFault) (since : List Call) :
    Prop :=
  (∃ before, calls = before ++ .inject point fault :: since) ∧
    ∀ call ∈ since, call.renews point = false

variable {calls since : List Call} {call : Call}

theorem putAt_concat : PutAt (calls ++ [call]) point fault since ↔
    (call = .inject point fault ∧ since = []) ∨
      ∃ earlier, since = earlier ++ [call] ∧ call.renews point = false ∧
        PutAt calls point fault earlier := by
  constructor
  · rintro ⟨⟨before, hsplit⟩, hkept⟩
    rcases List.eq_nil_or_concat since with rfl | ⟨earlier, last, rfl⟩
    · obtain ⟨-, hlast⟩ := List.append_inj' hsplit rfl
      exact .inl ⟨by simpa using hlast, rfl⟩
    · have hsplit' : calls ++ [call] = (before ++ .inject point fault :: earlier) ++ [last] := by
        simp [hsplit]
      obtain ⟨hcalls, hlast⟩ := List.append_inj' hsplit' rfl
      obtain rfl : call = last := by simpa using hlast
      rw [List.concat_eq_append, List.forall_mem_append] at hkept
      exact .inr ⟨earlier, List.concat_eq_append, hkept.2 call List.mem_cons_self,
        ⟨before, hcalls⟩, hkept.1⟩
  · rintro (⟨rfl, rfl⟩ | ⟨earlier, rfl, hcall, ⟨before, rfl⟩, hkept⟩)
    · exact ⟨⟨calls, rfl⟩, nofun⟩
    · exact ⟨⟨before, by simp⟩,
        List.forall_mem_append.2 ⟨hkept, List.forall_mem_singleton.2 hcall⟩⟩

theorem turn_eq_some_iff {account : Option (DeviceFault × Nat)} :
    turn point account call = some (fault, n) ↔
      (call = .inject point fault ∧ 0 = n) ∨
        call.renews point = false ∧ ∃ m, account = some (fault, m) ∧
          (if call.uses point fault then m + 1 else m) = n := by
  cases call with
  | inject other c =>
    by_cases h : other = point
    · simp [turn, Call.renews, h]
    · simp [turn, Call.renews, Call.uses, h]
  | clear => simp [turn, Call.renews]
  | check other device package =>
    cases account with
    | none => simp [turn]
    | some account =>
      obtain ⟨c, m⟩ := account
      by_cases h : other = point
      · by_cases hc : c = fault
        · cases hfor : fault.appliesTo device package <;>
            simp [turn, Call.renews, Call.uses, h, hc, hfor]
        · simp [turn, Call.renews, h, hc]
      · simp [turn, Call.renews, Call.uses, h]

/-- The account of a point is the fault put there last with the number of calls it was for. -/
theorem at?_after_eq_some_iff :
    (after {} calls).at? point = some (fault, n) ↔
      ∃ since, PutAt calls point fault since ∧ since.countP (Call.uses point fault) = n := by
  induction calls using List.reverseRecOn generalizing n with
  | nil => simp [at?, PutAt]
  | append_singleton calls call ih =>
    have hcount : ∀ earlier : List Call, (earlier ++ [call]).countP (Call.uses point fault) =
        if call.uses point fault then earlier.countP (Call.uses point fault) + 1
        else earlier.countP (Call.uses point fault) := by
      intro earlier
      rw [List.countP_append, List.countP_singleton]
      split <;> rfl
    rw [after_append, after_cons, after_nil, at?_next, turn_eq_some_iff]
    simp only [putAt_concat, ih]
    constructor
    · rintro (⟨rfl, rfl⟩ | ⟨hkept, m, ⟨earlier, hput, rfl⟩, rfl⟩)
      · exact ⟨[], .inl ⟨rfl, rfl⟩, rfl⟩
      · exact ⟨_, .inr ⟨earlier, rfl, hkept, hput⟩, hcount earlier⟩
    · rintro ⟨_, ⟨rfl, rfl⟩ | ⟨earlier, rfl, hkept, hput⟩, rfl⟩
      · exact .inl ⟨rfl, rfl⟩
      · exact .inr ⟨hkept, _, ⟨earlier, hput, rfl⟩, (hcount earlier).symm⟩

/-! ### Answers -/

/-- An answer depends on the account of its point only. -/
theorem check_congr {t : FaultScript} (h : s.at? point = t.at? point) (device : String)
    (package : Option String) :
    (s.check point device package).1 = (t.check point device package).1 := by
  refine Option.ext fun fault => ?_
  rw [check_eq_some_iff, check_eq_some_iff, h]

/-- A call at another point, or one that the fault in force is not for, is not put down. -/
theorem at?_next_skip {device : String} {package : Option String}
    (h : other = point → ∀ fault n, s.at? point = some (fault, n) →
      fault.appliesTo device package = false) :
    (s.next (.check other device package)).at? point = s.at? point := by
  rw [at?_next]
  by_cases hpoint : other = point
  · cases haccount : s.at? point with
    | none => simp [turn]
    | some account =>
      have hfor := h hpoint account.1 account.2 haccount
      simp [turn, hfor]
  · simp [turn, hpoint]

/-- After `calls`, `check` fails with `fault` exactly when `fault` was put at `point` last, with
nothing cleared `since`, is for the call, and was so for fewer calls since then than its
`failCount`. Calls at other points and calls that the fault in force is not for might as well not
have been made. -/
theorem check_after_iff (point : FaultPoint) (device : String) (package : Option String) :
    (∀ calls fault, ((after {} calls).check point device package).1 = some fault ↔
      ∃ since, PutAt calls point fault since ∧ fault.appliesTo device package = true ∧
        ∀ limit ∈ fault.failCount, since.countP (Call.uses point fault) < limit) ∧
    ∀ before later other device' package',
      (other = point → ∀ fault since, PutAt before point fault since →
        fault.appliesTo device' package' = false) →
      ((after {} (before ++ Call.check other device' package' :: later)).check point device
          package).1 =
        ((after {} (before ++ later)).check point device package).1 := by
  refine ⟨fun calls fault => ?_, fun before later other device' package' hskip => ?_⟩
  · rw [check_eq_some_iff]
    simp only [at?_after_eq_some_iff]
    constructor
    · rintro ⟨_, ⟨since, hput, rfl⟩, hfor, hleft⟩
      exact ⟨since, hput, hfor, hleft⟩
    · rintro ⟨since, hput, hfor, hleft⟩
      exact ⟨_, ⟨since, hput, rfl⟩, hfor, hleft⟩
  · refine check_congr ?_ device package
    have hsame : ((after {} before).next (.check other device' package')).at? point =
        (after {} before).at? point := by
      refine at?_next_skip fun hpoint fault n haccount => ?_
      obtain ⟨since, hput, -⟩ := at?_after_eq_some_iff.1 haccount
      exact hskip hpoint fault since hput
    rw [after_append, after_append, after_cons, at?_after, at?_after, hsame]

end DeviceLab.FaultScript
