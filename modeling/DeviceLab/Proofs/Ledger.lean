import DeviceLab.Proofs.SuiteSteps

/-! # The accounts of the suites

While the suites run, every suite that has been taken up is active or recorded, and not twice.

* `Ledger c refused d`: the accounts at a desk.  Every active attempt is `Underway`, every record is
  `Closed`, and `refused` tells the first launch that failed.
* `Ledger.aside`, `Ledger.blocked`, `Ledger.started`, `Ledger.finish`: how the accounts change.
* `Taking.ledger`, `Watching.ledger`, `Cancelling.ledger`: each turn leaves them right.
* `runSuites_spec`: so they are right at the end of the phase, however it ends. -/

namespace DeviceLab

open Relation (ReflTransGen)

/-- The process of the last attempt is known for every record of a suite that was launched, and for
no other one. -/
structure Linked (results : List SuiteSummary) (logs : List (Nat × ProcessId)) (moves : List Move) :
    Prop where
  nodup : (logs.map Prod.fst).Nodup
  entry : ∀ i process, (i, process) ∈ logs → ∃ x, results[i]? = some x ∧
    x.attempts ≠ 0 ∧ .launched x.suite x.attempts process ∈ moves
  covers : ∀ i x, results[i]? = some x → x.attempts ≠ 0 → ∃ process, (i, process) ∈ logs

/-- The accounts at a desk are right; `refused` is the suite whose first attempt could not be
launched, and why. -/
structure Ledger (c : Config) (refused : Option (String × LaunchError)) (d : Desk) : Prop where
  names : (d.active.map SuiteRun.suite ++ d.results.map SuiteSummary.suite).Perm
    (c.selected.take d.count)
  nodup : (c.selected.take d.count).Nodup
  active : ∀ run ∈ d.active, Underway c run.suite run.attempt run.process d.moves
  closed : ∀ x ∈ d.results, Closed c x d.moves
  untouched : ∀ name, name ∉ c.selected.take d.count → ∀ m ∈ d.moves, m.suite? ≠ some name
  refused : ∀ name cause, .refused name 1 (.launch cause) ∈ d.moves ↔ refused = some (name, cause)
  linked : Linked d.results d.logs d.moves

/-- The move is neither about a suite nor the failure of a first launch. -/
def Move.Aside (m : Move) : Prop :=
  m.suite? = none ∧ ∀ suite cause, m ≠ .refused suite 1 (.launch cause)

theorem Move.Idle.aside {m : Move} (h : m.Idle) : m.Aside := by
  cases m with
  | looked | polled | called => exact ⟨rfl, nofun⟩
  | _ => exact h.elim

/-- How far the suites were taken up: all of them, or those before the one whose first attempt could
not be launched. -/
def Reach (selected : List String) (count : Nat) (refused : Option (String × LaunchError)) : Prop :=
  count = selected.length ∧ refused = none ∨
    ∃ name cause, selected[count]? = some name ∧ refused = some (name, cause)

section Desk

variable {c : Config} {refused : Option (String × LaunchError)} {d d' : Desk} {name : String}
  {run : SuiteRun} {results : List SuiteSummary} {logs : List (Nat × ProcessId)}
  {moves new : List Move} {before after : List SuiteRun} {x : SuiteSummary}

/-! ### The processes of the records -/

theorem Linked.append (h : Linked results logs moves) (new : List Move) :
    Linked results logs (moves ++ new) where
  nodup := h.nodup
  entry i process hentry := by
    obtain ⟨x, hx, hattempts, hmem⟩ := h.entry i process hentry
    exact ⟨x, hx, hattempts, List.mem_append_left _ hmem⟩
  covers := h.covers

/-- The record of a suite that was never launched. -/
theorem Linked.unlaunched (h : Linked results logs moves) (hattempts : x.attempts = 0) :
    Linked (results ++ [x]) logs moves where
  nodup := h.nodup
  entry i process hentry := by
    obtain ⟨y, hy, hrest⟩ := h.entry i process hentry
    exact ⟨y, by rw [List.getElem?_append_left (List.getElem?_eq_some_iff.1 hy).1, hy], hrest⟩
  covers i y hy hlaunched := by
    rw [List.getElem?_append] at hy
    split at hy
    · exact h.covers i y hy hlaunched
    · rw [List.getElem?_singleton] at hy
      split at hy
      · cases hy
        exact absurd hattempts hlaunched
      · cases hy

/-- The record of a suite whose last attempt is a process. -/
theorem Linked.launched {process : ProcessId} (h : Linked results logs moves)
    (hattempts : x.attempts ≠ 0) (hstarted : .launched x.suite x.attempts process ∈ moves) :
    Linked (results ++ [x]) (logs ++ [(results.length, process)]) moves := by
  have hbound : ∀ i process, (i, process) ∈ logs → i < results.length := by
    intro i process hentry
    obtain ⟨y, hy, -⟩ := h.entry i process hentry
    exact (List.getElem?_eq_some_iff.1 hy).1
  refine ⟨?_, fun i other hentry => ?_, fun i y hy hlaunched => ?_⟩
  · rw [List.map_append, List.nodup_append]
    refine ⟨h.nodup, by simp, fun i hi j hj heq => ?_⟩
    obtain ⟨⟨i', process'⟩, hentry, rfl⟩ := List.mem_map.1 hi
    have hlt := hbound i' process' hentry
    simp only [List.map_cons, List.map_nil, List.mem_singleton] at hj
    omega
  · rcases List.mem_append.1 hentry with hentry | hentry
    · obtain ⟨y, hy, hrest⟩ := h.entry i other hentry
      exact ⟨y, by rw [List.getElem?_append_left (hbound i other hentry), hy], hrest⟩
    · rw [List.mem_singleton, Prod.mk.injEq] at hentry
      obtain ⟨rfl, rfl⟩ := hentry
      exact ⟨x, List.getElem?_concat_length, hattempts, hstarted⟩
  · rw [List.getElem?_append] at hy
    split at hy
    · obtain ⟨other, hentry⟩ := h.covers i y hy hlaunched
      exact ⟨other, List.mem_append_left _ hentry⟩
    · next hge =>
        rw [List.getElem?_singleton] at hy
        split at hy
        · next hzero =>
            refine ⟨process, List.mem_append_right _ (List.mem_singleton.2 ?_)⟩
            rw [Prod.mk.injEq]
            exact ⟨by omega, rfl⟩
        · cases hy

/-! ### How the accounts change -/

theorem Ledger.nodup_names (h : Ledger c refused d) :
    (d.active.map SuiteRun.suite ++ d.results.map SuiteSummary.suite).Nodup :=
  h.names.nodup_iff.2 h.nodup

/-- A suite is not both active and recorded. -/
theorem Ledger.not_recorded (h : Ledger c refused d) (hrun : run ∈ d.active) :
    run.suite ∉ d.results.map SuiteSummary.suite := fun hmem =>
  (List.nodup_append.1 h.nodup_names).2.2 _ (List.mem_map_of_mem hrun) _ hmem rfl

/-- Moves aside change nothing. -/
theorem Ledger.aside (h : Ledger c refused d) (hnew : ∀ m ∈ new, m.Aside) :
    Ledger c refused { d with moves := d.moves ++ new } := by
  have hothers : ∀ name, ∀ m ∈ new, m.suite? ≠ some name := by
    intro name m hm hsuite
    rw [(hnew m hm).1] at hsuite
    cases hsuite
  refine ⟨h.names, h.nodup, fun run hrun => (h.active run hrun).append (hothers _),
    fun x hx => (h.closed x hx).append (hothers _), fun name hname m hm => ?_, fun name cause => ?_,
    h.linked.append new⟩
  · rcases List.mem_append.1 hm with hm | hm
    · exact h.untouched name hname m hm
    · exact hothers name m hm
  · rw [List.mem_append, h.refused, or_iff_left]
    exact fun hm => (hnew _ hm).2 name cause rfl

/-- The first attempt of a suite cannot be launched. -/
theorem Ledger.refuse (h : Ledger c none d) (name : String) (cause : LaunchError) :
    Ledger c (some (name, cause))
      { d with moves := d.moves ++ [.refused name 1 (.launch cause)] } where
  names := h.names
  nodup := h.nodup
  active run hrun := (h.active run hrun).append (by simp [Move.suite?])
  closed x hx := (h.closed x hx).append (by simp [Move.suite?])
  untouched other hother m hm := by
    rcases List.mem_append.1 hm with hm | hm
    · exact h.untouched other hother m hm
    · simp [List.mem_singleton.1 hm, Move.suite?]
  refused other why := by
    have hnone := h.refused other why
    rw [List.mem_append, hnone]
    simp [eq_comm]
  linked := h.linked.append _

/-- The suite that is taken up next is the last one taken up. -/
theorem take_succ_of_getElem? {selected : List String} {count : Nat}
    (hname : selected[count]? = some name) :
    selected.take (count + 1) = selected.take count ++ [name] := by
  rw [List.take_add_one, hname, Option.toList_some]

theorem not_mem_take {selected : List String} {count : Nat} (hnodup : selected.Nodup)
    (hname : selected[count]? = some name) : name ∉ selected.take count := by
  have htake := hnodup.sublist (List.take_sublist (count + 1) _)
  rw [take_succ_of_getElem? hname, List.nodup_append] at htake
  exact fun hmem => htake.2.2 name hmem name (List.mem_singleton.2 rfl) rfl

/-- A suite that is never launched is taken up and recorded at once. -/
theorem Ledger.blocked (h : Ledger c refused d) (hnodup : c.selected.Nodup)
    (hname : c.selected[d.count]? = some x.suite) (hclosed : Closed c x d.moves)
    (hattempts : x.attempts = 0) :
    Ledger c refused { d with count := d.count + 1, results := d.results ++ [x] } where
  names := by
    rw [take_succ_of_getElem? hname, List.map_append, ← List.append_assoc]
    exact h.names.append_right _
  nodup := hnodup.sublist (List.take_sublist _ _)
  active := h.active
  closed y hy := by
    rcases List.mem_append.1 hy with hy | hy
    · exact h.closed y hy
    · rw [List.mem_singleton.1 hy]
      exact hclosed
  untouched name hother := by
    rw [take_succ_of_getElem? hname, List.mem_append, not_or] at hother
    exact h.untouched name hother.1
  refused := h.refused
  linked := h.linked.unlaunched hattempts

/-- The first attempt of a suite is launched. -/
theorem Ledger.started (h : Ledger c refused d) (hnodup : c.selected.Nodup)
    (hname : c.selected[d.count]? = some run.suite) (hlimit : 1 ≤ c.runLimit run.suite)
    (hattempt : run.attempt = 1) :
    Ledger c refused { d with
      count := d.count + 1
      active := d.active ++ [run]
      moves := d.moves ++ [Move.launched run.suite 1 run.process] } := by
  have huntouched := h.untouched _ (not_mem_take hnodup hname)
  have hnew : ∀ other, other ≠ run.suite →
      ∀ m ∈ [Move.launched run.suite 1 run.process], m.suite? ≠ some other := by
    intro other hother m hm hsuite
    rw [List.mem_singleton.1 hm] at hsuite
    exact hother (Option.some.inj hsuite).symm
  have htaken : ∀ other ∈ d.active.map SuiteRun.suite ++ d.results.map SuiteSummary.suite,
      other ≠ run.suite := fun other hother heq =>
    not_mem_take hnodup hname (heq ▸ h.names.subset hother)
  refine ⟨?_, hnodup.sublist (List.take_sublist _ _), fun other hother => ?_, fun x hx => ?_,
    fun other hother m hm => ?_, fun other why => ?_, h.linked.append _⟩
  · rw [take_succ_of_getElem? hname, List.map_append, List.append_assoc]
    have hcomm : ([run.suite] ++ d.results.map SuiteSummary.suite).Perm
        (d.results.map SuiteSummary.suite ++ [run.suite]) := List.perm_append_comm
    refine (hcomm.append_left _).trans ?_
    rw [← List.append_assoc]
    exact h.names.append_right _
  · rcases List.mem_append.1 hother with hother | hother
    · exact (h.active other hother).append
        (hnew _ (htaken _ (List.mem_append_left _ (List.mem_map_of_mem hother))))
    · rw [List.mem_singleton.1 hother, hattempt]
      exact underway_first huntouched hlimit run.process
  · exact (h.closed x hx).append
      (hnew _ (htaken _ (List.mem_append_right _ (List.mem_map_of_mem hx))))
  · rw [take_succ_of_getElem? hname, List.mem_append, not_or, List.mem_singleton] at hother
    rcases List.mem_append.1 hm with hm | hm
    · exact h.untouched other hother.1 m hm
    · exact hnew other hother.2 m hm
  · rw [List.mem_append, h.refused, or_iff_left (by simp)]

/-- An active attempt has come to its end; there is another one of its suite, or its record. -/
theorem Ledger.finish (h : Ledger c refused d) (hactive : d.active = before ++ run :: after)
    {next : Option SuiteRun} {record : Option SuiteSummary} (hconcerns : Concerns run next new record)
    (hfirst : ∀ m ∈ new, ∀ name cause, m ≠ .refused name 1 (.launch cause))
    (hnext : ∀ again ∈ next, Underway c again.suite again.attempt again.process (d.moves ++ new))
    (hrecord : ∀ x ∈ record, Closed c x (d.moves ++ new) ∧ 1 ≤ x.attempts ∧
      .launched x.suite x.attempts run.process ∈ d.moves ++ new) :
    Ledger c refused (d.finish before after run.process next new record) := by
  have hmem : run ∈ d.active := mem_active hactive
  have hothers : ∀ name, name ≠ run.suite → ∀ m ∈ new, m.suite? ≠ some name :=
    fun name hname m hm hsuite => hname (hconcerns.moves m hm name hsuite)
  have hrest : ∀ other ∈ before ++ after, other ∈ d.active ∧ other.suite ≠ run.suite := by
    have hnodup := (List.nodup_append.1 h.nodup_names).1
    rw [hactive, List.map_append, List.map_cons, List.perm_middle.nodup_iff, List.nodup_cons,
      ← List.map_append] at hnodup
    intro other hother
    refine ⟨?_, fun heq => hnodup.1 (heq ▸ List.mem_map_of_mem hother)⟩
    rw [hactive]
    exact List.mem_append.2 ((List.mem_append.1 hother).imp_right (List.mem_cons_of_mem _))
  refine ⟨?_, h.nodup, fun other hother => ?_, fun x hx => ?_, fun name hname m hm => ?_,
    fun name cause => ?_, ?_⟩
  · have hnames := h.names
    rw [hactive, List.map_append, List.map_cons, ← List.singleton_append, ← hconcerns.one]
      at hnames
    refine List.perm_iff_count.2 fun name => ?_
    have hcount := List.perm_iff_count.1 hnames name
    simp only [Desk.finish, List.map_append, List.count_append] at hcount ⊢
    omega
  · rcases List.mem_append.1 hother with hother | hother
    · obtain ⟨hold, hsuite⟩ := hrest other (List.mem_append_left _ hother)
      exact (h.active other hold).append (hothers _ hsuite)
    · rcases List.mem_append.1 hother with hother | hother
      · exact hnext other (Option.mem_toList.1 hother)
      · obtain ⟨hold, hsuite⟩ := hrest other (List.mem_append_right _ hother)
        exact (h.active other hold).append (hothers _ hsuite)
  · rcases List.mem_append.1 hx with hx | hx
    · refine (h.closed x hx).append (hothers _ fun heq => h.not_recorded hmem ?_)
      exact heq ▸ List.mem_map_of_mem hx
    · exact (hrecord x (Option.mem_toList.1 hx)).1
  · rcases List.mem_append.1 hm with hm | hm
    · exact h.untouched name hname m hm
    · refine hothers name (fun heq => hname (h.names.subset ?_)) m hm
      rw [heq]
      exact List.mem_append_left _ (List.mem_map_of_mem hmem)
  · rw [Desk.finish, List.mem_append, h.refused, or_iff_left]
    exact fun hm => hfirst _ hm name cause rfl
  · have hlinked := h.linked.append new
    cases record with
    | none => simpa only [Desk.finish, Option.toList_none, List.map_nil, List.append_nil] using hlinked
    | some x =>
        obtain ⟨-, hpos, hstarted⟩ := hrecord x rfl
        exact hlinked.launched (Nat.ne_of_gt hpos) hstarted

end Desk

/-! ### The turns -/

section Turns

variable {p : RunPlan} {c : Config} {blocked : List (Nat × String)} {named : Nat → String → Prop}
  {refused : Option (String × LaunchError)} {d d' : Desk} {run exited : SuiteRun}
  {outcome : ExitOutcome} {reason : Option String} {judgement : Classification} {output : String}
  {moves new : List Move} {before after : List SuiteRun}

theorem Taking.ledger (hnodup : p.config.selected.Nodup)
    (hlimit : ∀ name ∈ p.config.selected, 1 ≤ p.config.runLimit name)
    (h : Taking p blocked named d d') (hd : Ledger p.config refused d) :
    Ledger p.config refused d' := by
  cases h with
  | @barred name device entry hname =>
      have huntouched := hd.untouched name (not_mem_take hnodup hname)
      exact hd.blocked hnodup hname (closed_blocked huntouched _ _ (by decide) _) rfl
  | @undispatched name device cause hname =>
      have hrefused : Ledger p.config refused
          { d with moves := d.moves ++ [Move.refused name 1 (.command cause)] } :=
        hd.aside (List.forall_mem_singleton.2 ⟨rfl, nofun⟩)
      have huntouched := hrefused.untouched name (not_mem_take hnodup hname)
      exact hrefused.blocked hnodup hname (closed_blocked huntouched _ _ (by decide) _) rfl
  | started hname _ hrun =>
      obtain ⟨rfl, -, -, -, hattempt, -⟩ := hrun
      exact hd.started hnodup hname (hlimit _ (List.mem_of_getElem? hname)) hattempt

theorem Run.Collects.aside {m : Move} (h : Run.Collects m) : m.Aside := h.idle.aside

/-- The attempt of which the output is judged, and diagnostics are collected after that. -/
theorem Exited.judgedAfter (h : Exited p run outcome reason exited judgement output)
    (hrun : run.IsNew) (hunderway : Underway c run.suite run.attempt run.process moves)
    {calls : List Move} (hcalls : ∀ m ∈ calls, Run.Collects m) :
    Judged c exited judgement output (moves ++ Move.ended exited judgement output :: calls) := by
  obtain rfl := h.same hrun
  rw [List.append_cons]
  refine Judged.append (Underway.judged hunderway) fun m hm => ?_
  rw [(hcalls m hm).aside.1]
  nofun

theorem Settles.aside {kind : Option FailureKind}
    (h : Settles p run judgement output reason new kind) (hpos : 1 ≤ run.attempt) :
    ∀ m ∈ new, m.Aside := by
  cases h with
  | refused cause =>
      refine List.forall_mem_singleton.2 ⟨rfl, fun suite why heq => ?_⟩
      rw [Move.refused.injEq] at heq
      omega
  | _ => exact fun _ hm => absurd hm List.not_mem_nil

theorem FailureKind.ofTimeoutReason_ne (words : String) :
    FailureKind.ofTimeoutReason words ≠ .rerunExhausted := by
  unfold FailureKind.ofTimeoutReason
  split <;> decide

/-- Limits come first, then the wish for another attempt, then output that is not recognised. -/
theorem Settles.fitting {kind : Option FailureKind}
    (h : Settles p run judgement output reason new kind) (hreason : run.timeoutReason = reason)
    (hle : run.attempt ≤ p.config.runLimit run.suite) :
    Fitting p.config run judgement output kind := by
  cases h with
  | limit words =>
      refine ⟨iff_of_false (fun heq => ?_) fun h => ?_, nofun⟩
      · exact FailureKind.ofTimeoutReason_ne words (Option.some.inj heq)
      · rw [hreason] at h
        cases h.1
  | refused cause hwants hlimit =>
      exact ⟨iff_of_false (by simp) fun h => Nat.ne_of_lt hlimit h.2.2, nofun⟩
  | exhausted hwants hlimit =>
      exact ⟨iff_of_true rfl ⟨hreason, hwants, Nat.le_antisymm hle (Nat.le_of_not_lt hlimit)⟩, nofun⟩
  | plain hwants =>
      refine ⟨iff_of_false ?_ fun h => ?_, fun hnone => ⟨hreason, ?_, hwants⟩⟩
      · split <;> simp
      · rw [hwants] at h
        cases h.2.1
      · cases hambiguous : judgement.ambiguous with
        | false => rfl
        | true => simp [hambiguous] at hnone

/-- An attempt that has ended is judged, and the accounts are right whether another one follows it
or its record. -/
theorem Completes.ledger {next : Option SuiteRun} {record : Option SuiteSummary}
    (h : Completes p named run outcome reason next new record) (hrun : run.IsNew)
    (hactive : d.active = before ++ run :: after) (hd : Ledger p.config refused d) :
    Ledger p.config refused (d.finish before after run.process next new record) := by
  have hunderway := hd.active run (mem_active hactive)
  have hconcerns := h.concerns hrun
  cases h with
  | @again exited next judgement output calls hexited hcalls hwants hlimit hnext =>
      have hjudged := hexited.judgedAfter hrun hunderway hcalls
      refine hd.finish hactive hconcerns ?_ ?_ (by simp)
      · simp only [List.forall_mem_cons, List.forall_mem_append]
        exact ⟨nofun, fun m hm => (hcalls m hm).aside.2, nofun, by simp⟩
      · rintro _ ⟨⟩
        have hlaunched := hjudged.launched hlimit next.process
        rw [hnext.suite, hnext.attempt, ← List.cons_append, ← List.append_assoc]
        exact hlaunched
  | @judged _ exited judgement output calls new kind hexited hcalls hkind durationMs =>
      have hjudged := hexited.judgedAfter hrun hunderway hcalls
      have hprocess : exited.process = run.process := by rw [hexited.same hrun]
      have hreason : exited.timeoutReason = reason := by rw [hexited.same hrun]
      have haside := hkind.aside hjudged.pos
      have hothers : ∀ m ∈ new, m.suite? ≠ some exited.suite := fun m hm => by
        rw [(haside m hm).1]
        nofun
      refine hd.finish hactive hconcerns ?_ (by simp) ?_
      · simp only [List.forall_mem_cons, List.forall_mem_append]
        exact ⟨nofun, fun m hm => (hcalls m hm).aside.2, fun m hm => (haside m hm).2⟩
      · rintro _ ⟨⟩
        have hlast := hjudged.append hothers
        rw [List.append_assoc, List.cons_append] at hlast
        exact ⟨hlast.closed (hkind.fitting hreason hjudged.le) durationMs, hlast.pos,
          hprocess ▸ hlast.started⟩

/-- The record of an attempt that is not followed to its end, and the move that is made. -/
theorem Ledger.cutOff {m : Move} {x : SuiteSummary} {kind : FailureKind}
    (hd : Ledger c refused d) (hactive : d.active = before ++ run :: after) (hm : m.Aside)
    (hsuite : x.suite = run.suite) (hattempts : x.attempts = run.attempt)
    (hstatus : x.status ≠ .blocked) (hkind : x.failureKind = some kind)
    (hexhausted : kind ≠ .rerunExhausted) (hverdict : x.verdict ≠ .success) :
    Ledger c refused (d.finish before after run.process none [m] (some x)) := by
  have hunderway := hd.active run (mem_active hactive)
  have hothers : ∀ m' ∈ [m], m'.suite? ≠ some run.suite :=
    List.forall_mem_singleton.2 (by simp [hm.1])
  have hmoved := hunderway.append hothers
  rw [← hsuite, ← hattempts] at hmoved
  refine hd.finish hactive (concerns_cutOff hm.1 hsuite hstatus) (by simpa using hm.2) (by simp) ?_
  rintro _ ⟨⟩
  exact ⟨hmoved.closed hstatus hkind hexhausted hverdict, hmoved.pos, hmoved.started⟩

theorem Watching.ledger (h : Watching p named d d') (hruns : d.Runs p)
    (hd : Ledger p.config refused d) : Ledger p.config refused d' := by
  cases h with
  | aside hm => exact hd.aside (List.forall_mem_singleton.2 hm.aside)
  | @watched before after run hactive watch =>
      have hunderway := hd.active run (mem_active hactive)
      exact hd.finish hactive (concerns_watched run watch) (by simp) (by simpa using hunderway)
        (by simp)
  | completed hactive h =>
      exact h.ledger (hruns _ (mem_active hactive)).new hactive hd
  | lost hactive cause =>
      exact hd.cutOff hactive ⟨rfl, nofun⟩ rfl rfl SuiteStatus.noConfusion rfl (by decide)
        Severity.noConfusion

theorem Cancelling.ledger {rows : List Cancellation} (h : Cancelling d rows d')
    (hd : Ledger c refused d) : Ledger c refused d' := by
  induction h with
  | none => exact hd
  | @next d d' row rows rest hactive _ ih =>
      have hfirst : d.active = [] ++ row.run :: rest := hactive
      refine ih (hd.cutOff hfirst ?_ rfl rfl SuiteStatus.noConfusion rfl ?_ Severity.noConfusion)
      · exact ⟨rfl, nofun⟩
      · decide

end Turns

namespace Run

variable {σ β κ : Type} {kept : Device → κ} {s : Setup σ β} {r r' r₀ : Run σ β} {c : Config}
  {refused : Option (String × LaunchError)} {count : Nat} {active : List SuiteRun}
  {blocked : List (Nat × String)} {named : Nat → String → Prop}

/-! ### The phase -/

/-- The accounts survive the small steps that are not about a suite. -/
theorem robust_ledger :
    Robust kept Move.Aside fun r : Run σ β => Ledger c refused (r.desk count active) := by
  intro r r' h hadds
  obtain ⟨new, hnew, haside⟩ := hadds.moves
  rw [desk, hadds.results, hadds.resultLogs, hnew]
  exact h.aside haside

variable (hnodup : s.plan.config.selected.Nodup)
  (hlimit : ∀ name ∈ s.plan.config.selected, 1 ≤ s.plan.config.runLimit name)

include hnodup hlimit

theorem Ledger.taking {d : Desk} (hd : Ledger s.plan.config none (r₀.desk 0 []))
    (h : ReflTransGen (Taking s.plan blocked named) (r₀.desk 0 []) d) :
    Ledger s.plan.config none d :=
  kept_along (fun _ _ => Taking.ledger hnodup hlimit) h hd

theorem Going.ledger (h : Going s blocked named r₀ active r)
    (hd : Ledger s.plan.config none (r₀.desk 0 [])) :
    Ledger s.plan.config none (r.desk s.plan.config.selected.length active) := by
  obtain ⟨d, htaking, -, hreached⟩ := h
  have hruns : d.Runs s.plan := kept_along (fun _ _ => Taking.runs) htaking (desk_nil_runs s.plan r₀)
  refine (kept_along (P := fun d => d.Runs s.plan ∧ Ledger s.plan.config none d)
    (fun _ _ hturn h => ⟨hturn.runs h.1, hturn.ledger h.1 h.2⟩) hreached.turns
    ⟨hruns, Ledger.taking hnodup hlimit hd htaking⟩).2

/-- The accounts at the end of the phase: no attempt is active any more, and the suites that were
taken up are all of them unless a first attempt could not be launched. -/
theorem runSuites_spec (passes : Nat) (blocked : List (Nat × String)) :
    Ends (fun r => Ledger s.plan.config none (r.desk 0 [])) (runSuites s passes blocked)
      (fun _ r => Ledger s.plan.config none (r.desk s.plan.config.selected.length []))
      fun stop r => ∀ outcome, stop = .phase outcome → ∃ count refused,
        Ledger s.plan.config refused (r.desk count []) ∧
          Reach s.plan.config.selected count refused := by
  refine .of_eq fun r hr => (runSuites_steps (named_any s r) passes blocked).weaken
    (fun _ r' h => h.ledger hnodup hlimit hr) fun stop r' h outcome hstop => ?_
  subst hstop
  cases h.2 with
  | @aborted d name cause rows _ hturns hname hfree hrows =>
      have hrefused := (Ledger.taking hnodup hlimit hr hturns).refuse name cause
      exact ⟨_, _, hrows.ledger hrefused, .inr ⟨name, cause, hname, rfl⟩⟩
  | halted hgoing hlook hrows =>
      have hlooked : Ledger s.plan.config none (_ : Desk) :=
        robust_ledger _ _ (hgoing.ledger hnodup hlimit hr) (hlook.adds.mono fun m hm => by
          obtain ⟨b, rfl⟩ := hm
          exact ⟨rfl, nofun⟩)
      exact ⟨_, _, hrows.ledger hlooked, .inl ⟨rfl, rfl⟩⟩

end Run

end DeviceLab
