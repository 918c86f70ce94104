import Mathlib.Data.List.Nodup
import DeviceLab.Proofs.Course

/-! # Suites by a script

A script fixes how the attempts of the suites come out: whether each can be launched, how it exits
and what it writes.  As soon as the suites of a run are taken up, the script decides what is
recorded of each of them.  When the looks at the active attempts see that one has exited does not
matter, since no turn reads anything but the attempt it is about.

* `Script.Plays`: a move is as the script has it.
* `Given`: what is fixed when the suites are taken up; `Given.entry`, `Given.settle` and `Given.fate`
  compute the records from it.
* `Taken`, `Watched`: what every turn leaves true; both say that the records are those computed.
* `runSuites_played`: the records at the end of the phase, up to their order and their times. -/

namespace DeviceLab

open Relation (ReflTransGen)

/-- The record of a suite without how long it took and the file that keeps the output. -/
def SuiteSummary.timeless (x : SuiteSummary) : SuiteSummary :=
  { x with logPath := none, durationMs := 0 }

/-- How the attempts of suites come out, by the name of a suite and the number of an attempt. -/
structure Script where
  /-- Why the attempt cannot be launched, if it cannot. -/
  trigger : String → Nat → Option TriggerError
  outcome : String → Nat → ExitOutcome
  output : String → Nat → String

/-- A move is as the script has it: attempts are launched, refused and ended so, none is ended for
passing a limit or given up, and no look sees the wish to cancel. -/
def Script.Plays (script : Script) : Move → Prop
  | .looked cancelled => cancelled = false
  | .launched suite attempt _ => script.trigger suite attempt = none
  | .refused suite attempt cause => script.trigger suite attempt = some cause
  | .ended run _ output => run.timeoutReason = none ∧
      run.outcome = some (script.outcome run.suite run.attempt) ∧
      output = script.output run.suite run.attempt
  | .lost .. => False
  | .entered _ | .called _ | .attempted _ | .polled | .misstep _ | .cancelled .. => True

instance (script : Script) : DecidablePred script.Plays := fun m =>
  match m with
  | .looked _ | .launched .. | .refused .. => inferInstanceAs (Decidable (_ = _))
  | .ended .. => inferInstanceAs (Decidable (_ ∧ _))
  | .lost .. => inferInstanceAs (Decidable False)
  | .entered _ | .called _ | .attempted _ | .polled | .misstep _ | .cancelled .. =>
      inferInstanceAs (Decidable True)

/-- What becomes of a suite when it is taken up. -/
inductive Entry where
  /-- It is never launched. -/
  | recorded (record : SuiteSummary)
  /-- Its first attempt is launched. -/
  | performed
  /-- Its first attempt cannot be launched, and the run stops. -/
  | refused (cause : LaunchError)

/-- Why the run stops. -/
def Entry.refusal? : Entry → Option LaunchError
  | .refused cause => some cause
  | _ => none

/-- What is fixed when the suites of a run are taken up: the names of the devices, the indices of
those that are blocked, and how the attempts come out. -/
structure Given where
  plan : RunPlan
  devices : List String
  blocked : List (Nat × String)
  script : Script

namespace Given

variable (g : Given)

/-- The index of a suite, and of its device. -/
def place (name : String) : Nat := g.plan.config.selected.idxOf name

def Named (index : Nat) (device : String) : Prop := device = (g.devices[index]?).getD ""

/-- The name of the device of a suite. -/
def deviceOf (name : String) : String := (g.devices[g.place name]?).getD ""

/-- The record of a suite that is never launched. -/
def blockedAs (name : String) (kind : FailureKind) (message : String) : SuiteSummary :=
  .blocked name (g.plan.config.categoryOf name) (g.deviceOf name) kind message

/-- What becomes of a suite when it is taken up. -/
def entry (name : String) : Entry :=
  match g.blocked.find? fun e => e.1 == g.place name with
  | some e => .recorded (g.blockedAs name .install e.2)
  | none =>
    match g.script.trigger name 1 with
    | some (.command cause) => .recorded (g.blockedAs name .dispatch cause.message)
    | some (.launch cause) => .refused cause
    | some (.duration _) | none => .performed

def judge (name : String) (attempt : Nat) : Classification :=
  g.plan.classifier.classify (g.plan.config.categoryOf name) (g.script.output name attempt)
    (g.script.outcome name attempt).code

/-- The record of a suite whose last attempt is this one. -/
def judgedAs (name : String) (attempt : Nat) (kind : Option FailureKind) : SuiteSummary :=
  .classified name (g.plan.config.categoryOf name) (g.deviceOf name) attempt (g.judge name attempt)
    kind 0

/-- The record of a suite once an attempt has ended after which so many others are allowed. -/
def settle (name : String) (attempt remaining : Nat) : SuiteSummary :=
  if Run.wantsRerun (g.plan.config.suite? name) (g.judge name attempt)
      (g.script.output name attempt) then
    match remaining with
    | 0 => g.judgedAs name attempt (some .rerunExhausted)
    | remaining + 1 =>
      if (g.script.trigger name (attempt + 1)).isSome then
        g.judgedAs name attempt (some .dispatch)
      else settle name (attempt + 1) remaining
  else g.judgedAs name attempt (if (g.judge name attempt).ambiguous then some .ambiguous else none)

/-- The record of a suite that is launched, and whose attempts all end. -/
def settled (name : String) : SuiteSummary :=
  g.settle name 1 (g.plan.config.runLimit name - 1)

/-- The record of a suite whose first attempt is ended because the run stops. -/
def cutOff (name : String) : SuiteSummary :=
  .cancelled name (g.plan.config.categoryOf name) (g.deviceOf name) 1 0

/-- The record of a suite, if one that is launched has the record that is told. -/
def fate (launched : String → SuiteSummary) (name : String) : SuiteSummary :=
  match g.entry name with
  | .recorded x => x
  | .performed | .refused _ => launched name

/-- Why the run stops while it takes up the suites, if it does. -/
def refusal? : Option LaunchError :=
  g.plan.config.selected.findSome? fun name => (g.entry name).refusal?

/-- The suites that are taken up: all of them, or those before the one at which the run stops. -/
def taken : List String :=
  g.plan.config.selected.takeWhile fun name => (g.entry name).refusal?.isNone

/-- An active attempt belongs to its suite, and the record of the suite is still to be that of a
suite that is launched. -/
structure Performing (run : SuiteRun) : Prop where
  entry : g.entry run.suite = .performed
  category : run.category = g.plan.config.categoryOf run.suite
  place : run.deviceIndex = g.place run.suite
  device : run.device = g.deviceOf run.suite
  state : run.state = .running
  settled : g.settle run.suite run.attempt (g.plan.config.runLimit run.suite - run.attempt) =
    g.settled run.suite

/-- How the phase of the suites comes out, with its records up to their order and their times. -/
inductive Comes (results : List SuiteSummary) : Except Stop Unit → Prop where
  | through (hrefusal : g.refusal? = none)
      (hrecords : (results.map SuiteSummary.timeless).Perm
        (g.plan.config.selected.map (g.fate g.settled))) : Comes results (.ok ())
  | stopped {cause : LaunchError} (hrefusal : g.refusal? = some cause)
      (hrecords : (results.map SuiteSummary.timeless).Perm (g.taken.map (g.fate g.cutOff))) :
      Comes results (.error (.phase (.failure .suitesRunning .launch cause.message)))

/-- What is true while the suites are taken up. -/
structure Taken (d : Desk) : Prop where
  results : ∀ x ∈ d.results, g.entry x.suite = .recorded x.timeless
  active : ∀ run ∈ d.active, g.Performing run ∧ run.attempt = 1

/-- What is true once all suites have been taken up. -/
structure Watched (d : Desk) : Prop where
  results : ∀ x ∈ d.results, x.timeless = g.fate g.settled x.suite ∧
    (g.entry x.suite).refusal? = none
  active : ∀ run ∈ d.active, g.Performing run

variable {g} {d d' : Desk} {run exited : SuiteRun} {name : String} {index attempt : Nat}

/-! ### Taking up -/

theorem place_eq (hnodup : g.plan.config.selected.Nodup)
    (hname : g.plan.config.selected[index]? = some name) : g.place name = index := by
  obtain ⟨hlt, rfl⟩ := List.getElem?_eq_some_iff.1 hname
  exact hnodup.idxOf_getElem index hlt

theorem Named.deviceOf {device : String} (h : g.Named index device) (hplace : g.place name = index) :
    device = g.deviceOf name := by
  rw [Given.deviceOf, hplace]
  exact h

theorem entry_barred {entry : Nat × String} (hplace : g.place name = index)
    (hblocked : (g.blocked.find? fun e => e.1 == index) = some entry) :
    g.entry name = .recorded (g.blockedAs name .install entry.2) := by
  rw [Given.entry, hplace, hblocked]

/-- A suite that is not blocked is taken up as the script has it. -/
theorem entry_free (hplace : g.place name = index)
    (hfree : (g.blocked.find? fun e => e.1 == index) = none) :
    g.entry name = match g.script.trigger name 1 with
      | some (.command cause) => .recorded (g.blockedAs name .dispatch cause.message)
      | some (.launch cause) => .refused cause
      | some (.duration _) | none => .performed := by
  rw [Given.entry, hplace, hfree]

/-- An attempt that has just been launched. -/
theorem Performing.of_fresh (hfresh : Fresh g.plan g.Named index name attempt run)
    (hplace : g.place name = index) (hentry : g.entry name = .performed)
    (hsettled : g.settle name attempt (g.plan.config.runLimit name - attempt) = g.settled name) :
    g.Performing run := by
  obtain ⟨rfl, hcategory, rfl, hdevice, rfl, hnew⟩ := hfresh
  exact ⟨hentry, hcategory, hplace.symm, hdevice.deviceOf hplace, hnew.state, hsettled⟩

/-- A suite that is never launched is recorded. -/
theorem Taken.recorded {x : SuiteSummary} (hd : g.Taken d)
    (hx : g.entry x.suite = .recorded x.timeless) (hactive : d'.active = d.active)
    (hresults : d'.results = d.results ++ [x]) : g.Taken d' := by
  refine ⟨fun y hy => ?_, fun run hrun => hd.active run (hactive ▸ hrun)⟩
  rw [hresults] at hy
  rcases List.mem_append.1 hy with hy | hy
  · exact hd.results y hy
  · rw [List.mem_singleton.1 hy]
    exact hx

theorem Taken.taking (hnodup : g.plan.config.selected.Nodup)
    (h : Taking g.plan g.blocked g.Named d d') (hplays : ∀ m ∈ d'.moves, g.script.Plays m)
    (hd : g.Taken d) : g.Taken d' := by
  cases h with
  | @barred name device entry hname hblocked hdevice =>
      have hplace := place_eq hnodup hname
      rw [hdevice.deviceOf hplace]
      exact hd.recorded (entry_barred hplace hblocked) rfl rfl
  | @undispatched name device cause hname hfree hdevice =>
      have hplace := place_eq hnodup hname
      have htrigger : g.script.trigger name 1 = some (.command cause) :=
        hplays (.refused name 1 (.command cause)) (by simp)
      have hentry := entry_free hplace hfree
      rw [htrigger] at hentry
      rw [hdevice.deviceOf hplace]
      exact hd.recorded hentry rfl rfl
  | @started name run hname hfree hrun =>
      have hplace := place_eq hnodup hname
      have htrigger : g.script.trigger name 1 = none :=
        hplays (.launched name 1 run.process) (by simp)
      refine ⟨hd.results, fun other hother => ?_⟩
      rcases List.mem_append.1 hother with hother | hother
      · exact hd.active other hother
      · rw [List.mem_singleton.1 hother]
        refine ⟨.of_fresh hrun hplace ?_ rfl, hrun.attempt⟩
        rw [entry_free hplace hfree, htrigger]

theorem Taken.watched (h : g.Taken d) : g.Watched d := by
  refine ⟨fun x hx => ?_, fun run hrun => (h.active run hrun).1⟩
  have hentry := h.results x hx
  rw [fate, hentry]
  exact ⟨rfl, rfl⟩

/-! ### Watching -/

/-- An attempt that ends as the script has it has not been ended for passing a limit. -/
theorem Performing.ended {outcome : ExitOutcome} {reason : Option String}
    {judgement : Classification} {output : String} (hrun : g.Performing run)
    (h : Exited g.plan run outcome reason exited judgement output)
    (hplays : g.script.Plays (.ended exited judgement output)) :
    reason = none ∧ judgement = g.judge run.suite run.attempt ∧
      output = g.script.output run.suite run.attempt ∧
      exited = { run with state := .exited, outcome := some outcome, timeoutReason := none } := by
  obtain ⟨hmarked, hjudged⟩ := h
  obtain ⟨hreason, houtcome, houtput⟩ := hplays
  rw [SuiteRun.markExited_ok hrun.state, Except.ok.injEq] at hmarked
  subst hmarked
  change reason = none at hreason
  change some outcome = some (g.script.outcome run.suite run.attempt) at houtcome
  change output = g.script.output run.suite run.attempt at houtput
  subst hreason
  refine ⟨rfl, ?_, houtput, rfl⟩
  rw [hjudged, judge, ← houtput, ← hrun.category, ← Option.some.inj houtcome]
  rfl

/-- The record of a suite after whose last attempt no other follows. -/
theorem settle_of_settles {new : List Move} {kind : Option FailureKind}
    (h : Settles g.plan run (g.judge run.suite run.attempt)
      (g.script.output run.suite run.attempt) none new kind)
    (hplays : ∀ m ∈ new, g.script.Plays m) :
    g.settle run.suite run.attempt (g.plan.config.runLimit run.suite - run.attempt) =
      g.judgedAs run.suite run.attempt kind := by
  rw [settle.eq_def]
  cases h with
  | refused cause hwants hlimit =>
      have htrigger : g.script.trigger run.suite (run.attempt + 1) = some cause :=
        hplays _ (List.mem_singleton.2 rfl)
      have hremaining : g.plan.config.runLimit run.suite - run.attempt =
          g.plan.config.runLimit run.suite - (run.attempt + 1) + 1 := by omega
      rw [if_pos hwants, hremaining]
      simp [htrigger]
  | exhausted hwants hlimit =>
      have hremaining : g.plan.config.runLimit run.suite - run.attempt = 0 := by omega
      rw [if_pos hwants, hremaining]
  | plain hwants =>
      rw [if_neg (by simp [hwants])]

/-- The record of a suite does not change when another attempt follows. -/
theorem settle_of_launched (hwants : Run.wantsRerun (g.plan.config.suite? name)
      (g.judge name attempt) (g.script.output name attempt) = true)
    (hlimit : attempt < g.plan.config.runLimit name)
    (htrigger : g.script.trigger name (attempt + 1) = none) :
    g.settle name (attempt + 1) (g.plan.config.runLimit name - (attempt + 1)) =
      g.settle name attempt (g.plan.config.runLimit name - attempt) := by
  have hremaining : g.plan.config.runLimit name - attempt =
      g.plan.config.runLimit name - (attempt + 1) + 1 := by omega
  rw [hremaining, settle.eq_def g name attempt, if_pos hwants]
  simp [htrigger]

/-- An active attempt that ends as the script has it is followed by another one of its suite, or by
the record that is computed. -/
theorem Performing.completed {outcome : ExitOutcome} {reason : Option String}
    {next : Option SuiteRun} {new : List Move} {record : Option SuiteSummary}
    (hrun : g.Performing run) (h : Completes g.plan g.Named run outcome reason next new record)
    (hplays : ∀ m ∈ new, g.script.Plays m) :
    (∀ again ∈ next, g.Performing again) ∧
      ∀ x ∈ record, x.suite = run.suite ∧ x.timeless = g.settled run.suite := by
  cases h with
  | @again exited next judgement output calls hending hcalls hwants hlimit hnext =>
      obtain ⟨-, rfl, rfl, rfl⟩ := hrun.ended hending (hplays _ (by simp))
      have htrigger : g.script.trigger run.suite (run.attempt + 1) = none :=
        hplays (.launched run.suite (run.attempt + 1) next.process) (by simp)
      have hsettled := (settle_of_launched hwants hlimit htrigger).trans hrun.settled
      refine ⟨?_, by simp⟩
      rintro _ ⟨⟩
      exact .of_fresh hnext hrun.place.symm hrun.entry hsettled
  | judged hending hcalls hkind durationMs =>
      obtain ⟨rfl, rfl, rfl, rfl⟩ := hrun.ended hending (hplays _ (by simp))
      have hrecord := settle_of_settles hkind fun m hm => hplays m (by simp [hm])
      rw [hrun.settled, judgedAs, ← hrun.category, ← hrun.device] at hrecord
      refine ⟨by simp, ?_⟩
      rintro _ ⟨⟩
      exact ⟨rfl, hrecord.symm⟩

/-- An active attempt has been looked at. -/
theorem Watched.finish {before after : List SuiteRun} {next : Option SuiteRun} {new : List Move}
    {record : Option SuiteSummary} (hd : g.Watched d) (hactive : d.active = before ++ run :: after)
    (hnext : ∀ again ∈ next, g.Performing again)
    (hrecord : ∀ x ∈ record, x.suite = run.suite ∧ x.timeless = g.settled run.suite) :
    g.Watched (d.finish before after run.process next new record) := by
  have hrun := hd.active run (mem_active hactive)
  have hothers := hd.active
  rw [hactive, List.forall_mem_append, List.forall_mem_cons] at hothers
  refine ⟨List.forall_mem_append.2 ⟨hd.results, fun x hx => ?_⟩, List.forall_mem_append.2
    ⟨hothers.1, List.forall_mem_append.2 ⟨fun again hagain => ?_, hothers.2.2⟩⟩⟩
  · obtain ⟨hsuite, hx⟩ := hrecord x (Option.mem_toList.1 hx)
    rw [hsuite, fate, hrun.entry]
    exact ⟨hx, rfl⟩
  · exact hnext again (Option.mem_toList.1 hagain)

theorem Watched.watching (h : Watching g.plan g.Named d d')
    (hplays : ∀ m ∈ d'.moves, g.script.Plays m) (hd : g.Watched d) : g.Watched d' := by
  cases h with
  | aside => exact ⟨hd.results, hd.active⟩
  | @watched before after run hactive watch =>
      have hrun := hd.active run (mem_active hactive)
      refine hd.finish hactive ?_ (by simp)
      rintro _ ⟨⟩
      exact ⟨hrun.entry, hrun.category, hrun.place, hrun.device, hrun.state, hrun.settled⟩
  | completed hactive h =>
      obtain ⟨hnext, hrecord⟩ := (hd.active _ (mem_active hactive)).completed h
        fun m hm => hplays m (List.mem_append_right _ hm)
      exact hd.finish hactive hnext hrecord
  | @lost before after run hactive cause =>
      exact (hplays (.lost run cause) (List.mem_append_right _ (List.mem_singleton.2 rfl))).elim

/-! ### Rows of turns -/

theorem Taken.turns (hnodup : g.plan.config.selected.Nodup)
    (h : ReflTransGen (Taking g.plan g.blocked g.Named) d d')
    (hplays : ∀ m ∈ d'.moves, g.script.Plays m) (hd : g.Taken d) : g.Taken d' := by
  refine kept_along (P := fun d => (∀ m ∈ d.moves, g.script.Plays m) → g.Taken d)
    (fun d₁ d₂ hturn ih hplays => ?_) h (fun _ => hd) hplays
  exact (ih fun m hm => hplays m (hturn.moves_subset hm)).taking hnodup hturn hplays

theorem Watched.turns (h : ReflTransGen (Watching g.plan g.Named) d d')
    (hplays : ∀ m ∈ d'.moves, g.script.Plays m) (hd : g.Watched d) : g.Watched d' := by
  refine kept_along (P := fun d => (∀ m ∈ d.moves, g.script.Plays m) → g.Watched d)
    (fun d₁ d₂ hturn ih hplays => ?_) h (fun _ => hd) hplays
  exact (ih fun m hm => hplays m (hturn.moves_subset hm)).watching hturn hplays

/-! ### The records at the end -/

/-- If each record is the one computed, the names of the suites decide what is recorded. -/
theorem perm_fate {results : List SuiteSummary} {names : List String}
    {launched : String → SuiteSummary} (hnames : (results.map SuiteSummary.suite).Perm names)
    (hfate : ∀ x ∈ results, x.timeless = g.fate launched x.suite) :
    (results.map SuiteSummary.timeless).Perm (names.map (g.fate launched)) := by
  rw [List.map_congr_left hfate]
  have hmap : results.map (fun x => g.fate launched x.suite) =
      (results.map SuiteSummary.suite).map (g.fate launched) := by rw [List.map_map]; rfl
  rw [hmap]
  exact hnames.map _

/-- The run stops at the first suite whose first attempt cannot be launched. -/
theorem refusal_of_take {k : Nat} {cause : LaunchError}
    (hname : g.plan.config.selected[k]? = some name) (hentry : g.entry name = .refused cause)
    (hbefore : ∀ other ∈ g.plan.config.selected.take k, (g.entry other).refusal? = none) :
    g.refusal? = some cause ∧ g.taken = g.plan.config.selected.take k := by
  obtain ⟨hlt, rfl⟩ := List.getElem?_eq_some_iff.1 hname
  have hsplit : g.plan.config.selected = g.plan.config.selected.take k ++
      g.plan.config.selected[k] :: g.plan.config.selected.drop (k + 1) := by
    rw [List.getElem_cons_drop, List.take_append_drop]
  constructor
  · refine List.findSome?_eq_some_iff.2 ⟨_, _, _, hsplit, ?_, hbefore⟩
    rw [hentry]
    rfl
  · rw [taken]
    generalize hfront : g.plan.config.selected.take k = front at hsplit hbefore
    generalize g.plan.config.selected[k] = name at hsplit hentry
    rw [hsplit, List.takeWhile_append_of_pos fun other hother => by rw [hbefore other hother]; rfl,
      List.takeWhile_cons_of_neg (by simp [hentry, Entry.refusal?]), List.append_nil]

/-- What is given decides how the phase comes out. -/
theorem Comes.unique {results results' : List SuiteSummary} {outcome outcome' : Except Stop Unit}
    (h : g.Comes results outcome) (h' : g.Comes results' outcome') : outcome = outcome' ∧
      (results.map SuiteSummary.timeless).Perm (results'.map SuiteSummary.timeless) := by
  cases h with
  | through hrefusal hrecords =>
      cases h' with
      | through _ hrecords' => exact ⟨rfl, hrecords.trans hrecords'.symm⟩
      | stopped hrefusal' _ => rw [hrefusal] at hrefusal'; cases hrefusal'
  | stopped hrefusal hrecords =>
      cases h' with
      | through hrefusal' _ => rw [hrefusal] at hrefusal'; cases hrefusal'
      | stopped hrefusal' hrecords' =>
          rw [hrefusal, Option.some.injEq] at hrefusal'
          rw [hrefusal']
          exact ⟨rfl, hrecords.trans hrecords'.symm⟩

/-- All suites have been recorded, and none is active any more. -/
theorem Watched.comes (h : g.Watched d)
    (hnames : (d.results.map SuiteSummary.suite).Perm g.plan.config.selected) :
    g.Comes d.results (.ok ()) := by
  refine .through (List.findSome?_eq_none_iff.2 fun name hname => ?_)
    (perm_fate hnames fun x hx => (h.results x hx).1)
  obtain ⟨x, hx, rfl⟩ := List.mem_map.1 (hnames.symm.subset hname)
  exact (h.results x hx).2

/-- The run has stopped at a suite, and the attempts that were active have been ended. -/
theorem Taken.comes {rows : List Cancellation} {k : Nat} {cause : LaunchError}
    (h : g.Taken d) (hactive : rows.map Cancellation.run = d.active)
    (hname : g.plan.config.selected[k]? = some name) (hentry : g.entry name = .refused cause)
    (hnames : ((d.results ++ rows.map Cancellation.record).map SuiteSummary.suite).Perm
      (g.plan.config.selected.take k)) :
    g.Comes (d.results ++ rows.map Cancellation.record)
      (.error (.phase (.failure .suitesRunning .launch cause.message))) := by
  have hrows : ∀ row ∈ rows, g.Performing row.run ∧ row.run.attempt = 1 := fun row hrow =>
    h.active row.run (hactive ▸ List.mem_map_of_mem hrow)
  have hrecords : ∀ x ∈ d.results ++ rows.map Cancellation.record,
      x.timeless = g.fate g.cutOff x.suite ∧ (g.entry x.suite).refusal? = none := by
    intro x hx
    rcases List.mem_append.1 hx with hx | hx
    · rw [fate, h.results x hx]
      exact ⟨rfl, rfl⟩
    · obtain ⟨row, hrow, rfl⟩ := List.mem_map.1 hx
      obtain ⟨hrun, hattempt⟩ := hrows row hrow
      change _ = g.fate g.cutOff row.run.suite ∧ (g.entry row.run.suite).refusal? = none
      rw [fate, hrun.entry]
      refine ⟨?_, rfl⟩
      change _ = g.cutOff row.run.suite
      rw [cutOff, ← hrun.category, ← hrun.device, ← hattempt]
      rfl
  obtain ⟨hrefusal, htaken⟩ := refusal_of_take hname hentry fun other hother => by
    obtain ⟨x, hx, rfl⟩ := List.mem_map.1 (hnames.symm.subset hother)
    exact (hrecords x hx).2
  exact .stopped hrefusal (htaken ▸ perm_fate hnames fun x hx => (hrecords x hx).1)

end Given

namespace Run

variable {σ β : Type} {s : Setup σ β} {r r' : Run σ β} {g : Given} {active : List SuiteRun}
  {phases : List PhaseOutcome}

/-- What stays as it is while the suites run. -/
structure Setting (g : Given) (phases : List PhaseOutcome) (r : Run σ β) : Prop where
  machine : r.machine = .upTo .suitesRunning
  devices : r.devices.map Device.name = g.devices
  phases : r.phases = phases

theorem Setting.apart {p : Move → Prop} :
    Apart Device.name p (Setting g phases : Run σ β → Prop) :=
  ⟨fun _ _ h hadds => ⟨hadds.machine.trans h.machine, hadds.devices.trans h.devices,
    hadds.phases.trans h.phases⟩, fun _ _ _ _ h => ⟨h.machine, h.devices, h.phases⟩⟩

theorem Setting.named (h : Setting g phases r) (hb : s.backend.Keeps Device.name) :
    Named s g.Named r := by
  intro r' hacts index
  have hsetting : Setting g phases r' := Setting.apart.acts hb hacts h
  rw [Given.Named, ← hsetting.devices, List.getElem?_map]
  rfl

/-- A run by the script whose suites have been taken up. -/
theorem Going.watched (hg : g.plan = s.plan) (hnodup : g.plan.config.selected.Nodup)
    (hr : r.results = []) (h : Going s g.blocked g.Named r active r')
    (hplays : ∀ m ∈ r'.moves.toList, g.script.Plays m) :
    g.Watched (r'.desk g.plan.config.selected.length active) := by
  obtain ⟨d, htaking, -, hreached⟩ := h
  rw [← hg] at htaking hreached
  have htaken : g.Taken (r.desk 0 []) := ⟨by simp [desk, hr], by simp [desk]⟩
  have hsubset : d.moves ⊆ r'.moves.toList := kept_along (P := fun d' => d.moves ⊆ d'.moves)
    (fun _ _ hturn h => List.Subset.trans h hturn.moves_subset) hreached.turns (List.Subset.refl _)
  exact (htaken.turns hnodup htaking fun m hm => hplays m (hsubset hm)).watched.turns
    hreached.turns hplays

/-- If the moves of a run are as the script has them, what is given decides how its suites come
out. -/
theorem runSuites_played (hg : g.plan = s.plan) (hb : s.backend.Keeps Device.name)
    (hv : s.plan.config.SuitesValid) (passes : Nat) :
    Ends (fun r => Setting g phases r ∧ r.results = [] ∧ Ledger s.plan.config none (r.desk 0 []))
      (runSuites s passes g.blocked)
      (fun _ r => Setting g phases r ∧
        ((∀ m ∈ r.moves.toList, g.script.Plays m) → g.Comes r.results (.ok ())))
      fun stop r => ∀ outcome, stop = .phase outcome →
        (∀ m ∈ r.moves.toList, g.script.Plays m) →
          Setting g phases r ∧ g.Comes r.results (.error stop) := by
  refine .of_eq fun r hr => ?_
  obtain ⟨hsetting, hresults, hledger⟩ := hr
  have hkeeps : ∀ r', Acts s r r' → Setting g phases r' := fun r' h =>
    Setting.apart.acts hb h hsetting
  refine (runSuites_steps (hsetting.named hb) passes g.blocked).weaken (fun _ r' h => ?_)
    fun stop r' h outcome hstop hplays => ⟨hkeeps r' h.1, ?_⟩
  · refine ⟨hkeeps r' h.acts, fun hplays => ?_⟩
    have hwatched := h.watched hg (hg ▸ hv.nodup) hresults hplays
    have hnames := AllRecorded.names (h.ledger hv.nodup hv.runLimit hledger)
    exact hwatched.comes (hg ▸ hnames)
  · subst hstop
    cases h.2 with
    | @aborted d name cause rows _ hturns hname hfree hrows =>
        obtain ⟨hruns, hrecords, hmoves⟩ := Cancelling.written hrows
        have hledgers := hrows.ledger
          ((Ledger.taking hv.nodup hv.runLimit hledger hturns).refuse name cause)
        have hnames := hledgers.names
        rw [← hg] at hturns hname hnames
        have htaken : g.Taken (r.desk 0 []) := ⟨by simp [desk, hresults], by simp [desk]⟩
        have hmem : ∀ m ∈ d.moves ++ [Move.refused name 1 (.launch cause)], g.script.Plays m :=
          fun m hm => hplays m (hmoves ▸ List.mem_append_left _ hm)
        have hbegan := htaken.turns (hg ▸ hv.nodup) hturns fun m hm =>
          hmem m (List.mem_append_left _ hm)
        have htrigger : g.script.trigger name 1 = some (.launch cause) := hmem
          (.refused name 1 (.launch cause)) (List.mem_append_right _ (List.mem_singleton.2 rfl))
        have hentry : g.entry name = .refused cause := by
          rw [Given.entry_free (Given.place_eq (hg ▸ hv.nodup) hname) hfree, htrigger]
        rw [hrecords]
        rw [desk, hrecords] at hnames
        exact hbegan.comes hruns hname hentry hnames
    | halted hgoing hlook hrows =>
        -- the look that has seen the wish is not in the script
        obtain ⟨k, hlooks⟩ := hlook.moves
        obtain ⟨-, -, hmoves⟩ := Cancelling.written hrows
        have hseen : Move.looked true ∈ r'.moves.toList := by
          rw [hmoves, desk, hlooks]
          simp
        exact absurd (hplays _ hseen) (by simp [Script.Plays])

end Run

end DeviceLab
