import DeviceLab.Proofs.Summing

/-! # Attempts that pass a limit

An attempt that passes a limit is ended by the harness.  However its process then ends and whatever
it has printed, it is judged without an exit code and recorded as a failure at least, and its suite
is not launched again.

* `SuiteSummary.TimedOut`: the record of such an attempt.
* `JudgedLate`: what happens between its end and the next attempt that is looked at.
* `Regular`: what is known of the attempts of a run at any time.  Each attempt that is looked at or
  ended has taken no step before, so that none of its steps is refused.
* `Taking.regular`, `Watching.regular`, `Cancelling.regular`, `Breaking.regular`: it stays so in every
  turn of the suites, and `Regulated` carries it through a whole run.
* `attempts_at_limits`: the statement for every attempt, every look and every run. -/

namespace DeviceLab

open Relation (ReflTransGen)

namespace Move

/-- The move judges an attempt of a suite that was ended for passing a limit. -/
def Overran (name : String) : Move → Prop
  | .ended run _ _ => run.suite = name ∧ run.timeoutReason ≠ none
  | _ => False

/-- The move launches an attempt of a suite. -/
def Launches (name : String) : Move → Prop
  | .launched suite _ _ => suite = name
  | _ => False

/-- The move shows that every step of an attempt is taken: none is refused, and an attempt is judged
once it has been marked as ended, by its output and its exit code. -/
def Marked (p : RunPlan) : Move → Prop
  | .misstep _ => False
  | .ended run c output =>
    (∃ new outcome reason, SuiteRun.IsNew new ∧ new.markExited outcome reason = .ok run) ∧
      c = p.classifier.classify run.category output run.exitCode
  | _ => True

/-- The move is not about a step of an attempt. -/
def Mild (m : Move) : Prop := m.suite? = none ∧ ∀ cause, m ≠ .misstep cause

variable {m : Move} {name : String}

theorem Mild.marked (h : m.Mild) (p : RunPlan) : m.Marked p := by
  cases m with
  | misstep cause => exact h.2 cause rfl
  | ended run c output => exact nomatch h.1
  | _ => trivial

theorem Mild.not_launches (h : m.Mild) : ¬m.Launches name := by
  cases m with
  | launched suite attempt process => exact nomatch h.1
  | _ => exact id

theorem Mild.not_overran (h : m.Mild) : ¬m.Overran name := by
  cases m with
  | ended run c output => exact nomatch h.1
  | _ => exact id

theorem mild_of_fits {p : Phase} (h : m.Fits p) (hp : p ≠ .suitesRunning) : m.Mild := by
  have hphase : m.phase? ≠ some .suitesRunning := fun hsome => hp (h _ hsome).symm
  cases m with
  | launched suite attempt process => exact absurd rfl hphase
  | ended run c output => exact absurd rfl hphase
  | misstep cause => exact absurd rfl hphase
  | _ => exact ⟨rfl, nofun⟩

end Move

/-- The record of an attempt that was ended for passing a limit: it has been judged, nothing came
after it, and its verdict is a failure at least. -/
structure SuiteSummary.TimedOut (run : SuiteRun) (c : Classification) (words : String)
    (x : SuiteSummary) : Prop where
  suite : x.suite = run.suite
  attempts : x.attempts = run.attempt
  status : x.status = .classified
  classification : x.classification = some c
  failureKind : x.failureKind = some (.ofTimeoutReason words)
  verdict : .failure ≤ x.verdict

theorem FailureKind.failure_le_severity (kind : FailureKind) : .failure ≤ kind.severity := by
  cases kind <;> decide

/-- Whatever its judgement, an attempt that passed a limit is recorded as a failure at least. -/
theorem SuiteSummary.timedOut_classified (run : SuiteRun) (c : Classification) (words : String)
    (ms : Nat) : (classified run.suite run.category run.device run.attempt c
      (some (.ofTimeoutReason words)) ms).TimedOut run c words :=
  ⟨rfl, rfl, rfl, rfl, rfl,
    Severity.le_trans (FailureKind.failure_le_severity _) (Severity.le_join_right c.severity _)⟩

theorem SuiteSummary.TimedOut.of_bare {run : SuiteRun} {c : Classification} {words : String}
    {x y : SuiteSummary} (h : x.TimedOut run c words) (hsame : y.bare = x.bare) :
    y.TimedOut run c words where
  suite := (congrArg SuiteSummary.suite hsame).trans h.suite
  attempts := (congrArg SuiteSummary.attempts hsame).trans h.attempts
  status := (congrArg SuiteSummary.status hsame).trans h.status
  classification := (congrArg SuiteSummary.classification hsame).trans h.classification
  failureKind := (congrArg SuiteSummary.failureKind hsame).trans h.failureKind
  verdict := by
    have hverdict := congrArg SuiteSummary.verdict hsame
    change y.verdict = x.verdict at hverdict
    rw [hverdict]
    exact h.verdict

namespace Run

variable {σ β : Type} {s : Setup σ β} {r r' : Run σ β} {run exited : SuiteRun} {words : String}
  {c : Classification} {output : String} {free free' : List String} {name : String}
  {active : List SuiteRun}

/-! ### The end of an attempt at a limit -/

/-- A move has been made, and after it diagnostics were collected at most. -/
def Trails (m : Move) (before after : Run σ β) : Prop :=
  ∃ back, after.moves.toList = before.moves.toList ++ m :: back ∧ ∀ m ∈ back, Collects m

/-- An attempt that was ended for passing a limit has been judged and recorded, and nothing else was
done but to collect diagnostics. -/
structure JudgedLate (exited : SuiteRun) (c : Classification) (output words : String)
    (before after : Run σ β) : Prop where
  moves : Trails (.ended exited c output) before after
  results : ∃ x : SuiteSummary, after.results = before.results ++ [x] ∧ x.TimedOut exited c words

/-- An attempt that has just been ended for passing a limit is judged without an exit code and
recorded, and no other attempt follows. -/
theorem complete_late (hnew : run.IsNew) (outcome : ExitOutcome) (words : String)
    (hexited : run.markExited outcome (some words) = .ok exited) (r : Run σ β) :
    Ends (· = r) (complete s run outcome (some words))
      (fun next r' => next = none ∧ ∃ output, JudgedLate exited
        (s.plan.classifier.classify exited.category output none) output words r r')
      fun _ _ => False := by
  refine (complete_completes (named_any s r) hnew outcome (some words) nofun).weaken
    (fun next r' h => ?_) fun cause r' h => nomatch h.2.1
  obtain ⟨new, record, hcompletes, hwrites⟩ := h
  cases hcompletes with
  | @judged _ other judgement output calls new kind hending hcalls hkind durationMs =>
      have hmarked := hending.marked
      rw [hexited, Except.ok.injEq] at hmarked
      subst hmarked
      have hcode : exited.exitCode = none := by rw [hending.same hnew]; rfl
      have hjudged := hending.judged
      rw [hcode] at hjudged
      cases hkind
      have hlate : JudgedLate exited judgement output words r r' :=
        ⟨⟨calls, by rw [hwrites.moves, List.append_nil], hcalls⟩, _, hwrites.results,
          SuiteSummary.timedOut_classified exited judgement words durationMs⟩
      exact ⟨rfl, output, hjudged ▸ hlate⟩

/-- So is one that is found to have passed a limit, and that is then ended. -/
theorem pollOne_late (hnew : run.IsNew) {outcome : ExitOutcome}
    (hexited : run.markExited outcome (some words) = .ok exited)
    (hseen : ((glance s run).run.run r.lab).1 = .ok (.ended outcome (some words))) :
    ∃ r' output, (pollOne s run).run.run r = (.ok none, r') ∧ JudgedLate exited
      (s.plan.classifier.classify exited.category output none) output words r r' := by
  have hspec : Ends (· = r) (pollOne s run)
      (fun next r' => next = none ∧ ∃ output, JudgedLate exited
        (s.plan.classifier.classify exited.category output none) output words r r')
      fun _ _ => False := by
    refine .bind (Q := fun seen r' => seen = .ok (.ended outcome (some words)) ∧
      r'.results = r.results ∧ r'.moves = r.moves) (.modifyGet fun r' h => ?_) fun seen =>
        .of_eq fun r₁ h => ?_
    · rw [h]
      exact ⟨hseen, rfl, rfl⟩
    · obtain ⟨rfl, hresults, hmoves⟩ := h
      refine (complete_late hnew outcome words hexited r₁).weaken (fun next r' h => ?_)
        fun _ _ h => h
      obtain ⟨hnone, output, hmoved, hrecord⟩ := h
      refine ⟨hnone, output, ?_, ?_⟩
      · rwa [Trails, hmoves] at hmoved
      · rwa [hresults] at hrecord
  have hboth := (hspec.and Ends.exact) r ⟨rfl, rfl⟩
  dsimp only at hboth
  split at hboth
  · obtain ⟨⟨rfl, output, hlate⟩, hrun⟩ := hboth
    exact ⟨_, output, hrun, hlate⟩
  · exact hboth.1.elim

end Run

/-! ### What is known of the attempts -/

/-- What is known of the attempts of a run at any time by its records and moves, where the suites in
`free` may be launched: none of these has passed a limit, every step of an attempt was taken, and an
attempt that passed a limit is the last one of its suite and has its record. -/
structure Regular (p : RunPlan) (free : List String) (results : List SuiteSummary)
    (moves : List Move) : Prop where
  nodup : free.Nodup
  untimed : ∀ m ∈ moves, ∀ name ∈ free, ¬m.Overran name
  marked : ∀ m ∈ moves, m.Marked p
  last : moves.Pairwise fun m m' => ∀ name, m.Overran name → ¬m'.Launches name
  recorded : ∀ run c output words, .ended run c output ∈ moves →
    run.timeoutReason = some words → ∃ x ∈ results, x.TimedOut run c words

/-- The suites that may still be launched: those of the active attempts, and those that have not been
taken up. -/
def Desk.free (p : RunPlan) (d : Desk) : List String :=
  d.active.map SuiteRun.suite ++ p.config.selected.drop d.count

section Desk

variable {p : RunPlan} {run exited : SuiteRun} {words output name : String} {c : Classification}
  {free free' : List String} {results more : List SuiteSummary} {moves new back : List Move}
  {m : Move} {d d' : Desk} {blocked : List (Nat × String)} {named : Nat → String → Prop}
  {outcome : ExitOutcome} {reason : Option String}

/-- Fewer suites are free, and there are more records. -/
theorem Regular.mono (h : Regular p free results moves) (hfree : free'.Sublist free)
    (more : List SuiteSummary) : Regular p free' (results ++ more) moves where
  nodup := h.nodup.sublist hfree
  untimed m hm name hname := h.untimed m hm name (hfree.subset hname)
  marked := h.marked
  last := h.last
  recorded run c output words hmem hwords := by
    obtain ⟨x, hx, htimed⟩ := h.recorded run c output words hmem hwords
    exact ⟨x, List.mem_append_left _ hx, htimed⟩

theorem Regular.over (h : Regular p free results moves) : Regular p [] results moves := by
  simpa only [List.append_nil] using h.mono (List.nil_sublist _) []

/-- Moves that leave attempts alone, after one that may judge or launch an attempt of a free suite. -/
theorem Regular.append (h : Regular p free results moves) (more : List SuiteSummary)
    (hback : ∀ m ∈ back, m.Mild) (hmarked : m.Marked p) (hlaunches : ∀ name, m.Launches name → name ∈ free)
    (hfree : free'.Sublist free) (hovertime : ∀ name ∈ free', ¬m.Overran name)
    (hrecorded : ∀ run c output words, m = .ended run c output → run.timeoutReason = some words →
      ∃ x ∈ more, x.TimedOut run c words) :
    Regular p free' (results ++ more) (moves ++ m :: back) := by
  have hback' : back.Pairwise fun m m' => ∀ name, m.Overran name → ¬m'.Launches name :=
    List.pairwise_of_forall_mem_list fun _ _ m' hm' _ _ => (hback m' hm').not_launches
  refine ⟨h.nodup.sublist hfree, fun m' hm' name hname => ?_, fun m' hm' => ?_, ?_,
    fun run c output words hended hwords => ?_⟩
  · rcases List.mem_append.1 hm' with hm' | hm'
    · exact h.untimed m' hm' name (hfree.subset hname)
    · rcases List.mem_cons.1 hm' with rfl | hm'
      · exact hovertime name hname
      · exact (hback m' hm').not_overran
  · rcases List.mem_append.1 hm' with hm' | hm'
    · exact h.marked m' hm'
    · rcases List.mem_cons.1 hm' with rfl | hm'
      · exact hmarked
      · exact (hback m' hm').marked p
  · refine List.pairwise_append.2 ⟨h.last, List.pairwise_cons.2 ⟨fun m' hm' name _ =>
      (hback m' hm').not_launches, hback'⟩, fun before hbefore m' hm' name hover hlaunch => ?_⟩
    rcases List.mem_cons.1 hm' with rfl | hm'
    · exact h.untimed before hbefore name (hlaunches name hlaunch) hover
    · exact (hback m' hm').not_launches hlaunch
  · rcases List.mem_append.1 hended with hm' | hm'
    · obtain ⟨x, hx, htimed⟩ := h.recorded run c output words hm' hwords
      exact ⟨x, List.mem_append_left _ hx, htimed⟩
    · rcases List.mem_cons.1 hm' with hm' | hm'
      · obtain ⟨x, hx, htimed⟩ := hrecorded run c output words hm'.symm hwords
        exact ⟨x, List.mem_append_right _ hx, htimed⟩
      · exact nomatch (hback _ hm').1

/-- Moves that leave attempts alone. -/
theorem Regular.mild (h : Regular p free results moves) (new : List Move) (hnew : ∀ m ∈ new, m.Mild) :
    Regular p free results (moves ++ new) := by
  cases new with
  | nil => rwa [List.append_nil]
  | cons m back =>
    obtain ⟨hm, hback⟩ := List.forall_mem_cons.1 hnew
    have happended := h.append [] hback (hm.marked p)
      (fun _ hlaunch => absurd hlaunch hm.not_launches) (.refl free) (fun _ _ => hm.not_overran)
      fun run c output words hended _ => by
        rw [hended] at hm
        exact nomatch hm.1
    rwa [List.append_nil] at happended

/-- A free suite is launched. -/
theorem Regular.launched (h : Regular p free results moves) (hname : name ∈ free) (attempt : Nat)
    (process : ProcessId) (back : List Move) (hback : ∀ m ∈ back, m.Mild) :
    Regular p free results (moves ++ Move.launched name attempt process :: back) := by
  have happended := h.append (m := .launched name attempt process) [] hback trivial
    (fun _ hlaunch => hlaunch ▸ hname) (.refl free) (fun _ _ => id)
    fun _ _ _ _ hended => nomatch hended
  rwa [List.append_nil] at happended

/-- An attempt that has ended of itself is judged. -/
theorem Regular.ended (h : Regular p free results moves) (hnew : run.IsNew)
    (hexited : Exited p run outcome none exited c output) (hback : ∀ m ∈ back, m.Mild) :
    Regular p free results (moves ++ Move.ended exited c output :: back) := by
  have hreason : exited.timeoutReason = none := by rw [hexited.same hnew]
  have happended := h.append (m := .ended exited c output) [] hback
    ⟨⟨run, outcome, none, hnew, hexited.marked⟩, hexited.judged⟩ (fun _ => False.elim) (.refl free)
    (fun _ _ hover => hover.2 hreason) fun _ _ _ _ hended hwords => by
      cases hended
      rw [hreason] at hwords
      cases hwords
  rwa [List.append_nil] at happended

/-- An attempt that was ended for passing a limit is judged and recorded; its suite is not free any
more. -/
theorem Regular.late (h : Regular p free results moves) (hnew : run.IsNew)
    (hexited : Exited p run outcome (some words) exited c output) (hback : ∀ m ∈ back, m.Mild)
    (hfree : free'.Sublist free) (hother : run.suite ∉ free') {x : SuiteSummary}
    (hx : x.TimedOut exited c words) :
    Regular p free' (results ++ [x]) (moves ++ Move.ended exited c output :: back) := by
  have hreason : exited.timeoutReason = some words := by rw [hexited.same hnew]
  have hsuite : exited.suite = run.suite := by rw [hexited.same hnew]
  refine h.append [x] hback ⟨⟨run, outcome, some words, hnew, hexited.marked⟩, hexited.judged⟩
    (fun _ => False.elim) hfree (fun name hname hover => ?_) fun _ _ _ _ hended hwords => ?_
  · rw [← hsuite, hover.1] at hother
    exact hother hname
  · cases hended
    rw [hreason] at hwords
    cases hwords
    exact ⟨x, List.mem_singleton.2 rfl, hx⟩

/-! ### The turns -/

/-- What is known at a desk. -/
def Desk.Regular (p : RunPlan) (d : Desk) : Prop :=
  DeviceLab.Regular p (d.free p) d.results d.moves

theorem Move.Idle.mild (h : m.Idle) : m.Mild := by
  cases m with
  | looked | polled | called => exact ⟨rfl, nofun⟩
  | _ => exact h.elim

theorem Settles.mild {kind : Option FailureKind} (h : Settles p run c output reason new kind) :
    ∀ m ∈ new, m.Mild := by
  cases h with
  | refused => exact List.forall_mem_singleton.2 ⟨rfl, nofun⟩
  | _ => exact fun _ hm => absurd hm List.not_mem_nil

theorem Taking.regular (h : Taking p blocked named d d') (hd : d.Regular p) : d'.Regular p := by
  have hskip : (d.active.map SuiteRun.suite ++ p.config.selected.drop (d.count + 1)).Sublist
      (d.free p) :=
    List.Sublist.append_left (by rw [← List.tail_drop]; exact List.tail_sublist _) _
  cases h with
  | barred => exact hd.mono hskip _
  | @undispatched name device cause =>
      refine (hd.mild _ (List.forall_mem_singleton.2 ?_)).mono hskip _
      exact ⟨rfl, nofun⟩
  | @started name run hname _ hrun =>
      obtain ⟨rfl, -⟩ := hrun
      have hdrop : p.config.selected.drop d.count =
          run.suite :: p.config.selected.drop (d.count + 1) := by
        obtain ⟨hlt, hget⟩ := List.getElem?_eq_some_iff.1 hname
        rw [List.drop_eq_getElem_cons hlt, hget]
      have hfree : Desk.free p { d with
          count := d.count + 1
          active := d.active ++ [run]
          moves := d.moves ++ [Move.launched run.suite 1 run.process] } = d.free p := by
        rw [Desk.free, Desk.free, hdrop, List.map_append, List.append_assoc]
        rfl
      unfold Desk.Regular
      rw [hfree]
      refine hd.launched ?_ 1 run.process [] (by simp)
      rw [Desk.free, hdrop]
      simp

theorem Run.Collects.mild (h : Run.Collects m) : m.Mild := h.idle.mild

/-- When an active attempt has been looked at, no other suites are free. -/
theorem free_finish {before after : List SuiteRun} (hactive : d.active = before ++ run :: after)
    {next : Option SuiteRun} (hnext : ∀ again ∈ next, again.suite = run.suite)
    (process : ProcessId) (new : List Move) (record : Option SuiteSummary) :
    ((d.finish before after process next new record).free p).Sublist (d.free p) := by
  have hone : (next.toList.map SuiteRun.suite).Sublist [run.suite] := by
    cases next with
    | none => exact List.nil_sublist _
    | some again =>
        rw [← hnext again rfl]
        exact .refl _
  simp only [Desk.free, Desk.finish, hactive, List.map_append, List.map_cons]
  rw [← List.singleton_append]
  exact (((hone.append_right _).append_left _).append_right _)

theorem suite_mem_free {before after : List SuiteRun} (hactive : d.active = before ++ run :: after) :
    run.suite ∈ d.free p :=
  List.mem_append_left _ (List.mem_map_of_mem (mem_active hactive))

/-- No suite is free twice. -/
theorem suite_not_mem_free {before after : List SuiteRun} (hd : d.Regular p)
    (hactive : d.active = before ++ run :: after) (process : ProcessId) (new : List Move)
    (record : Option SuiteSummary) :
    run.suite ∉ (d.finish before after process none new record).free p := by
  have hnodup : (d.free p).Nodup := hd.nodup
  rw [Desk.free, hactive, List.map_append, List.map_cons, List.append_assoc, List.cons_append,
    List.perm_middle.nodup_iff, List.nodup_cons, ← List.append_assoc, ← List.map_append] at hnodup
  exact hnodup.1

theorem Completes.regular {before after : List SuiteRun} {next : Option SuiteRun}
    {record : Option SuiteSummary} (h : Completes p named run outcome reason next new record)
    (hrun : run.IsNew) (hactive : d.active = before ++ run :: after) (hd : d.Regular p) :
    (d.finish before after run.process next new record).Regular p := by
  have hfollows := (h.concerns hrun).next
  cases h with
  | @again exited next judgement output calls hending hcalls hwants hlimit hnext =>
      have hsuite : exited.suite = run.suite := by rw [hending.same hrun]
      have hended := hd.ended hrun hending fun m hm => (hcalls m hm).mild
      have hlaunched := hended.launched (hsuite ▸ suite_mem_free hactive) (exited.attempt + 1)
        next.process [] (by simp)
      rw [List.append_assoc, List.cons_append] at hlaunched
      exact hlaunched.mono (free_finish hactive hfollows _ _ _) _
  | @judged _ exited judgement output calls new kind hending hcalls hkind durationMs =>
      have hmild : ∀ m ∈ calls ++ new, m.Mild :=
        List.forall_mem_append.2 ⟨fun m hm => (hcalls m hm).mild, hkind.mild⟩
      have hfree := free_finish (p := p) hactive hfollows run.process
        (Move.ended exited judgement output :: (calls ++ new)) (some (.classified exited.suite
          exited.category exited.device exited.attempt judgement kind durationMs))
      cases reason with
      | none => exact (hd.ended hrun hending hmild).mono hfree _
      | some words =>
          cases hkind
          exact hd.late hrun hending hmild hfree (suite_not_mem_free hd hactive _ _ _)
            (SuiteSummary.timedOut_classified exited judgement words durationMs)

theorem Watching.regular (h : Watching p named d d') (hruns : d.Runs p) (hd : d.Regular p) :
    d'.Regular p := by
  cases h with
  | aside hm => exact hd.mild _ (List.forall_mem_singleton.2 hm.mild)
  | watched hactive watch =>
      exact (hd.mild [] (by simp)).mono (free_finish hactive (concerns_watched _ watch).next _ _ _) _
  | completed hactive h => exact h.regular (hruns _ (mem_active hactive)).new hactive hd
  | lost hactive cause =>
      refine (hd.mild _ (List.forall_mem_singleton.2 ?_)).mono (free_finish hactive (by simp) _ _ _) _
      exact ⟨rfl, nofun⟩

theorem Cancelling.regular {rows : List Cancellation} (h : Cancelling d rows d') (hd : d.Regular p) :
    d'.Regular p := by
  induction h with
  | none => exact hd
  | @next d d' row rows rest hactive _ ih =>
      have hfirst : d.active = [] ++ row.run :: rest := hactive
      refine ih ((hd.mild _ (List.forall_mem_singleton.2 ?_)).mono
        (free_finish hfirst (by simp) _ _ _) _)
      exact ⟨rfl, nofun⟩

theorem Breaking.regular {cause : DurationError} (h : Breaking p cause d d') (hruns : d.Runs p)
    (hd : d.Regular p) : d'.Regular p := by
  cases h with
  | @next before after run exited outcome judgement output calls process hactive hending hcalls =>
      have hrun := (hruns _ (mem_active hactive)).new
      have hsuite : exited.suite = run.suite := by rw [hending.same hrun]
      have hended := hd.ended hrun hending fun m hm => (hcalls m hm).mild
      have hlaunched := hended.launched (hsuite ▸ suite_mem_free hactive) (exited.attempt + 1)
        process [.refused exited.suite (exited.attempt + 1) (.duration cause)]
        (List.forall_mem_singleton.2 ⟨rfl, nofun⟩)
      rw [List.append_assoc, List.cons_append] at hlaunched
      exact hlaunched

end Desk

namespace Run

variable {σ β : Type} {s : Setup σ β} {r r' r₀ : Run σ β} {free : List String} {count : Nat}
  {active : List SuiteRun} {blocked : List (Nat × String)} {named : Nat → String → Prop}

/-! ### The suites and the whole run -/

theorem Regular.taking {d : Desk} (hd : (r₀.desk 0 []).Regular s.plan)
    (h : ReflTransGen (Taking s.plan blocked named) (r₀.desk 0 []) d) :
    d.Runs s.plan ∧ d.Regular s.plan :=
  kept_along (P := fun d => d.Runs s.plan ∧ d.Regular s.plan)
    (fun _ _ hturn h => ⟨hturn.runs h.1, hturn.regular h.2⟩) h ⟨desk_nil_runs s.plan r₀, hd⟩

theorem Regular.watching {d d' : Desk} (hd : d.Runs s.plan ∧ d.Regular s.plan)
    (h : ReflTransGen (Watching s.plan named) d d') : d'.Runs s.plan ∧ d'.Regular s.plan :=
  kept_along (P := fun d => d.Runs s.plan ∧ d.Regular s.plan)
    (fun _ _ hturn h => ⟨hturn.runs h.1, hturn.regular h.1 h.2⟩) h hd

theorem Going.regular (h : Going s blocked named r₀ active r)
    (hd : (r₀.desk 0 []).Regular s.plan) :
    (r.desk s.plan.config.selected.length active).Regular s.plan := by
  obtain ⟨d, htaking, -, hreached⟩ := h
  exact (Regular.watching (Regular.taking hd htaking) hreached.turns).2

/-- What is known of the attempts of a run, of which some suites may still be launched. -/
def Regulated (p : RunPlan) (free : List String) (r : Run σ β) : Prop :=
  Regular p free r.results r.moves.toList

theorem Regulated.robust {p : RunPlan} :
    Robust (fun _ => ()) Move.Mild (Regulated p free : Run σ β → Prop) := by
  intro r r' h hadds
  obtain ⟨new, hnew, hmild⟩ := hadds.moves
  rw [Regulated, hadds.results, hnew]
  exact h.mild new hmild

theorem Regulated.steady {p : RunPlan} :
    Steady (fun _ => ()) (Regulated p free : Run σ β → Prop) := by
  refine ⟨Regulated.robust.mono fun m hm => ?_, fun _ _ h => h⟩
  cases m with
  | looked cancelled => exact ⟨rfl, nofun⟩
  | entered phase => exact ⟨rfl, nofun⟩
  | _ => cases hm

theorem Regulated.robust_phase {p : RunPlan} {phase : Phase} (hp : phase ≠ .suitesRunning) :
    Robust (fun _ => ()) (Move.Fits phase) (Regulated p free : Run σ β → Prop) :=
  Regulated.robust.mono fun _ hm => Move.mild_of_fits hm hp

theorem Stopped.regulated {passes : Nat} {stop : Stop} (h : Stopped s blocked named r₀ passes stop r)
    (hd : (r₀.desk 0 []).Regular s.plan) : Regulated s.plan [] r := by
  cases h with
  | @aborted d name cause rows r hturns hname hfree hrows =>
      have hrefused := (Regular.taking hd hturns).2.mild
        [.refused name 1 (.launch cause)] (List.forall_mem_singleton.2 ⟨rfl, nofun⟩)
      exact (hrows.regular hrefused).over
  | @halted active rows r₁ r₂ r hgoing hlook hrows =>
      have hlooked : (r₂.desk s.plan.config.selected.length active).Regular s.plan :=
        Regulated.robust r₁ r₂ (hgoing.regular hd) (hlook.adds.of_id.mono fun m hm => by
          obtain ⟨b, rfl⟩ := hm
          exact ⟨rfl, nofun⟩)
      exact (hrows.regular hlooked).over
  | @first d name process cause r hturns hname hfree hcause hdesk =>
      have hmem : name ∈ d.free s.plan := by
        obtain ⟨hlt, hget⟩ := List.getElem?_eq_some_iff.1 hname
        rw [Desk.free, List.drop_eq_getElem_cons hlt, hget]
        exact List.mem_append_right _ (List.mem_cons_self ..)
      have hlaunched := (Regular.taking hd hturns).2.launched hmem 1 process
        [.refused name 1 (.duration cause)] (List.forall_mem_singleton.2 ⟨rfl, nofun⟩)
      have hresults : r.results = d.results := congrArg Desk.results hdesk
      have hmoves : r.moves.toList = d.moves ++ Move.overlong name 1 process cause :=
        congrArg Desk.moves hdesk
      rw [Regulated, hresults, hmoves]
      exact hlaunched.over
  | later hturns hcount hwatching hcause hdesk =>
      obtain ⟨hruns, hregular⟩ := Regular.watching (Regular.taking hd hturns) hwatching
      exact (hdesk.regular hruns hregular).over
  | unmeasured hgoing => exact (hgoing.regular hd).over
  | unfinished hgoing => exact (hgoing.regular hd).over

theorem runSuites_regulated (passes : Nat) (blocked : List (Nat × String)) :
    Ends (Regulated s.plan s.plan.config.selected) (runSuites s passes blocked)
      (fun _ => Regulated s.plan []) fun _ => Regulated s.plan [] := by
  refine .of_eq fun r hr => (runSuites_steps (named_any s r) passes blocked).weaken
    (fun _ r' h => ?_) fun stop r' h => h.2.regulated hr
  exact Regular.over (h.regular hr)

/-! ### The whole run -/

theorem execute_regulated (passes : Nat) :
    Ends (Regulated s.plan s.plan.config.selected) (execute s passes) (fun _ => Regulated s.plan [])
      fun _ => Regulated s.plan [] := by
  rw [execute_eq]
  refine .bind ((untilSuites_keeps s.backend.keeps_nothing Regulated.steady
    (fun _ => Regulated.robust_phase) (fun _ _ h => h) fun _ _ h => h).weaken (fun _ _ h => h)
    fun _ _ => Regular.over) fun blocked => ?_
  exact .bind (runSuites_regulated passes blocked) fun _ => enter_keeps Regulated.steady _

/-- However a run ends, what is known of its attempts is true at its end. -/
theorem startWithin_regulated (hnodup : s.plan.config.selected.Nodup) (system : σ) (memory : β)
    (passes : Nat) :
    Regulated s.plan [] ((startWithin s passes).run (.fresh s.plan system memory)).2 := by
  have hrobust : ∀ free, Robust id (fun _ => False) (Regulated s.plan free : Run σ β → Prop) :=
    fun free r r' h hadds => Regulated.robust r r' h (hadds.of_id.mono fun _ h => h.elim)
  have hcarryOut := carryOut_keeps s.backend.keeps_nothing
    ((Regulated.robust_phase (by decide)).mono fun _ h => h.fits) Regulated.steady.abiding
    (fun _ _ h => h) (execute_regulated (s := s) passes)
  refine (startWithin_keeps (hrobust _) (hrobust []) hcarryOut).leads
    (.fresh s.plan system memory) ?_
  exact ⟨hnodup, fun _ hm => absurd hm List.not_mem_nil, fun _ hm => absurd hm List.not_mem_nil, .nil,
    fun _ _ _ _ hm => absurd hm List.not_mem_nil⟩

/-- The last attempt of a suite. -/
theorem Regulated.not_launched {p : RunPlan} (h : Regulated p free r) {run : SuiteRun}
    {c : Classification} {output words : String} {before after : List Move}
    (hsplit : r.moves.toList = before ++ .ended run c output :: after)
    (hwords : run.timeoutReason = some words) (attempt : Nat) (process : ProcessId) :
    .launched run.suite attempt process ∉ after := by
  intro hmem
  have hlast := h.last
  rw [hsplit, List.pairwise_append, List.pairwise_cons] at hlast
  have hover : (Move.ended run c output).Overran run.suite := ⟨rfl, by simp [hwords]⟩
  exact hlast.2.1.1 _ hmem run.suite hover rfl

/-- What an attempt has been `Told` in any `row` of steps is the first end and the first judgement
after it; each `step` is taken in its order or refused, and a step that is refused changes nothing.

An attempt that `glance` finds to have passed a limit and ends is `JudgedLate`: without an exit code,
whatever its process ended with, and nothing follows it.

In a run no step of an attempt is ever refused, and every attempt that was ended for passing a limit
was judged so.  It is the last one of its suite, and is recorded as a failure at least (`TimedOut`),
also in the report if there is one. -/
theorem attempts_at_limits (s : Setup σ β) (hv : s.plan.config.validate = .ok ()) :
    (∀ run : SuiteRun, run.IsNew → ∀ row, SuiteRun.Told run row ∧
      ∀ step, SuiteRun.Answered (run.after row) step) ∧
    (∀ (run : SuiteRun) (outcome : ExitOutcome) (words : String) (r : Run σ β), run.IsNew →
      ((glance s run).run.run r.lab).1 = .ok (.ended outcome (some words)) →
      ∃ exited r' output, run.markExited outcome (some words) = .ok exited ∧
        (pollOne s run).run.run r = (.ok none, r') ∧ JudgedLate exited
          (s.plan.classifier.classify exited.category output none) output words r r') ∧
    ∀ (system : σ) (memory : β) (passes : Nat) (result : Except Breakdown RunReport)
      (final : Run σ β),
      (startWithin s passes).run (.fresh s.plan system memory) = (result, final) →
      (∀ cause, .misstep cause ∉ final.moves.toList) ∧
      ∀ (before : List Move) run c output (after : List Move),
        final.moves.toList = before ++ .ended run c output :: after →
        (∃ new outcome reason, SuiteRun.IsNew new ∧ new.markExited outcome reason = .ok run) ∧
        c = s.plan.classifier.classify run.category output run.exitCode ∧
        ∀ words, run.timeoutReason = some words →
          run.exitCode = none ∧
          (∀ attempt process, .launched run.suite attempt process ∉ after) ∧
          (∃ x ∈ final.results, x.TimedOut run c words) ∧
          ∀ report, result = .ok report → ∃ x ∈ report.summary.suites, x.TimedOut run c words := by
  have hvalid := Config.validate_suites hv
  refine ⟨fun run hnew row => ⟨hnew.told row, SuiteRun.answered _⟩,
    fun run outcome words r hnew hseen => ?_, fun system memory passes result final hrun => ?_⟩
  · have hexited := SuiteRun.markExited_ok hnew.state outcome (some words)
    obtain ⟨r', output, hpolled, hlate⟩ := pollOne_late hnew hexited hseen
    exact ⟨_, r', output, hexited, hpolled, hlate⟩
  have hregular := startWithin_regulated hvalid.nodup system memory passes
  rw [hrun] at hregular
  refine ⟨fun cause hmem => hregular.marked _ hmem, fun before run c output after hsplit => ?_⟩
  have hmem : .ended run c output ∈ final.moves.toList := by
    rw [hsplit]
    exact List.mem_append_right _ (List.mem_cons_self ..)
  obtain ⟨hstep, hjudged⟩ := hregular.marked _ hmem
  refine ⟨hstep, hjudged, fun words hwords => ?_⟩
  obtain ⟨x, hx, htimed⟩ := hregular.recorded run c output words hmem hwords
  refine ⟨by rw [SuiteRun.exitCode, hwords]; rfl, Regulated.not_launched hregular hsplit hwords,
    ⟨x, hx, htimed⟩, fun report hreport => ?_⟩
  have hfinishes : Finishes s system memory report final := ⟨passes, hreport ▸ hrun⟩
  have hfinished := hfinishes.finished (P := fun _ => True) s.backend.keeps_nothing hvalid
    fun _ => trivial
  have hbare : x.bare ∈ report.summary.suites.map SuiteSummary.bare := by
    rw [hfinished.summary.suites]
    exact List.mem_map_of_mem hx
  obtain ⟨y, hy, hsame⟩ := List.mem_map.1 hbare
  exact ⟨y, hy, htimed.of_bare hsame⟩

end Run

/-- A host on which hours pass between two looks, and a suite ends when it is told to. -/
def Sample.sluggish : Host Sample.Disk :=
  { Sample.host with
    now := do return ⟨10000000000000 * (← get).next⟩
    pause := fun _ _ => modify fun disk => { disk with next := disk.next + 1 }
    tryWait := fun pid => do
      return if pid = 1 ∨ (← get).next < 100 then none else some (.exited 0)
    signalGroup := fun _ _ => modifyGet fun disk => (true, { disk with next := disk.next + 100 }) }

/-- The plan of the small lab is carried out on that host. -/
def Sample.sluggishSetup : Setup Sample.Disk FaultScript :=
  ⟨Sample.sluggish, Scripted.backend Sample.sluggish, (Sample.setup Sample.planned).plan⟩

/-- In the small lab a suite passes its limit, has printed that it passed, and ends in order when it
is told to. -/
theorem Run.failure_of_exit_zero : ∃ report final run c output words,
    Finishes Sample.sluggishSetup {} {} report final ∧
    .ended run c output ∈ final.moves.toList ∧ output = "TEST-PASS" ∧
    run.outcome = some (.exited 0) ∧ run.timeoutReason = some words ∧ run.exitCode = none ∧
    ∃ x ∈ report.summary.suites, x.TimedOut run c words := by
  have hv : Sample.sluggishSetup.plan.config.validate = .ok () := Sample.setup_valid Sample.planned
  have hcheck : (match (startWithin Sample.sluggishSetup 20).run
      (.fresh Sample.sluggishSetup.plan {} {}) with
    | (.ok _, final) => final.moves.toList.any fun m => match m with
        | .ended run _ output => output == "TEST-PASS" && run.outcome == some (.exited 0) &&
            run.timeoutReason.isSome
        | _ => false
    | (.error _, _) => false) = true := by decide +kernel
  split at hcheck
  · next report final hrun =>
      obtain ⟨m, hm, hended⟩ := List.any_eq_true.1 hcheck
      split at hended
      · next run c output =>
          simp only [Bool.and_eq_true, beq_iff_eq] at hended
          obtain ⟨⟨hprinted, houtcome⟩, hwords⟩ := hended
          obtain ⟨words, hwords⟩ := Option.isSome_iff_exists.1 hwords
          obtain ⟨before, after, hsplit⟩ := List.append_of_mem hm
          obtain ⟨-, -, hruns⟩ := attempts_at_limits Sample.sluggishSetup hv
          obtain ⟨-, hjudged⟩ := hruns {} {} 20 (.ok report) final hrun
          obtain ⟨-, -, hlate⟩ := hjudged before run c output after hsplit
          obtain ⟨hcode, -, -, hreport⟩ := hlate words hwords
          exact ⟨report, final, run, c, output, words, ⟨20, hrun⟩, hm, hprinted, houtcome, hwords,
            hcode, hreport report rfl⟩
      · cases hended
  · cases hcheck

end DeviceLab
