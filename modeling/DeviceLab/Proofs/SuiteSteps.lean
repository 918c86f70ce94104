import Mathlib.Logic.Relation
import DeviceLab.Proofs.Attempts
import DeviceLab.Proofs.Looks
import DeviceLab.Proofs.Steps

/-! # What happens while the suites run

Everything that a run does in this phase is described here once, in two ways that belong together.
Seen from the run, it is a row of acts; seen from its suites, it is a row of turns, each of which
tells what becomes of one suite.  A statement about the phase then needs one case for each kind of
act, or for each kind of turn, and no other look at the functions of the phase.

* `Act`: one thing that a run does; `Acts`: a row of them.
* `Triggers`, `Completes`: what comes of the launch of an attempt, and of one that has ended.
* `Desk`: the active attempts and what is written down about the suites.
* `Taking`, `Watching`, `Cancelling`: one turn of a suite that is taken up, of an active attempt, and of
  an attempt whose run is cancelled.  A look at all active attempts is a row of turns in any order,
  so that a statement which survives each turn holds whatever the order in which attempts end.
* `Going`, `Stopped`: how far a run has come with its suites, and how it may be stopped.
* `runSuites_steps`: the phase leads to one of these. -/

namespace DeviceLab

open Relation (ReflTransGen)

/-- What every step leaves true, a row of steps leaves true. -/
theorem kept_along {α : Type} {step : α → α → Prop} {P : α → Prop} {a b : α}
    (hstep : ∀ a b, step a b → P a → P b) (h : ReflTransGen step a b) (ha : P a) : P b := by
  induction h with
  | refl => exact ha
  | tail _ hlast ih => exact hstep _ _ hlast ih

/-- The suite that heads what is left of a selection stands at the index that has been reached. -/
theorem head_of_drop {selected rest : List String} {name : String} {index : Nat}
    (hnames : name :: rest = selected.drop index) :
    selected[index]? = some name ∧ rest = selected.drop (index + 1) := by
  constructor
  · rw [← List.head?_drop, ← hnames, List.head?_cons]
  · rw [← List.tail_drop, ← hnames, List.tail_cons]

/-- The category of a suite, if the suite is defined. -/
def Config.categoryOf (c : Config) (name : String) : String :=
  ((c.suite? name).map SuiteSpec.category).getD ""

/-- The run makes the move by itself while its suites run: it has nothing to do with the backend or
with a launch. -/
def Move.Own : Move → Prop
  | .looked _ | .polled | .ended .. | .lost .. | .cancelled .. => True
  | _ => False

theorem Move.Own.fits {m : Move} (h : m.Own) : m.Fits .suitesRunning := by
  cases m with
  | looked b => exact fits_looked _ b
  | polled | ended | lost | cancelled => exact In.fits rfl
  | _ => exact h.elim

/-- A move that is about no suite and does not stop the run. -/
def Move.Idle : Move → Prop
  | .looked false | .polled | .called _ => True
  | _ => False

/-- An attempt of a suite that has just been launched on a device. -/
structure Fresh (p : RunPlan) (named : Nat → String → Prop) (index : Nat) (name : String)
    (attempt : Nat) (run : SuiteRun) : Prop where
  suite : run.suite = name
  category : run.category = p.config.categoryOf name
  place : run.deviceIndex = index
  device : named index run.device
  attempt : run.attempt = attempt
  new : run.IsNew

/-- A new attempt of a selected suite, on the device that belongs to it. -/
structure SuiteRun.Runs (p : RunPlan) (run : SuiteRun) : Prop where
  new : run.IsNew
  place : p.config.selected[run.deviceIndex]? = some run.suite

theorem Fresh.runs {p : RunPlan} {named : Nat → String → Prop} {index attempt : Nat} {name : String}
    {run : SuiteRun} (h : Fresh p named index name attempt run)
    (hname : p.config.selected[index]? = some name) : run.Runs p :=
  ⟨h.new, by rw [h.place, h.suite, hname]⟩

namespace Run

variable {σ β κ : Type} {kept : Device → κ} {s : Setup σ β} {r r' r'' : Run σ β}
  {run : SuiteRun} {name : String} {index attempt : Nat}
  {records records' : List SuiteSummary} {logs logs' : List (Nat × ProcessId)}
  {new new' : List Move}

/-! ### Acts -/

/-- One thing that a run does while its suites run. -/
inductive Act (s : Setup σ β) (r : Run σ β) : Run σ β → Prop where
  /-- It does something with its lab, but gives nothing up. -/
  | lab {lab : Lab σ} (h : Lab.Retains s.host r.lab lab) : Act s r { r with lab }
  | move {m : Move} (h : m.Own) : Act s r { r with moves := r.moves.push m }
  /-- It records what has become of a suite. -/
  | record (results : List SuiteSummary) (resultLogs : List (Nat × ProcessId)) :
      Act s r { r with results, resultLogs }
  /-- It collects the diagnostics of a device. -/
  | collect (index : Nat) : Act s r
      ((performPlain .collectDiagnostics s.backend.collectDiagnostics index).run r).2
  /-- It launches an attempt of a suite on the device that belongs to it, or fails to. -/
  | trigger {name : String} {index : Nat} (hname : s.plan.config.selected[index]? = some name)
      (attempt : Nat) : Act s r ((trigger s name index attempt).run.run r).2

/-- A row of such acts. -/
abbrev Acts (s : Setup σ β) : Run σ β → Run σ β → Prop := ReflTransGen (Act s)

theorem detached_acts (s : Setup σ β) (r : Run σ β) : Detached s.host (Acts s r) :=
  fun _ _ h hlab => h.tail (.lab hlab)

/-- The move asks the backend for diagnostics. -/
def Collects (m : Move) : Prop := ∃ call, m = .called call ∧ call.kind = .collectDiagnostics

theorem Collects.idle {m : Move} (h : Collects m) : m.Idle := by
  obtain ⟨call, rfl, -⟩ := h
  trivial

/-- By its acts the run has recorded some suites, with the processes of their last attempts, and has
made some moves. -/
structure Writes (s : Setup σ β) (r r' : Run σ β) (records : List SuiteSummary)
    (logs : List (Nat × ProcessId)) (new : List Move) : Prop where
  acts : Acts s r r'
  results : r'.results = r.results ++ records
  logs : r'.resultLogs = r.resultLogs ++ logs
  moves : r'.moves.toList = r.moves.toList ++ new

theorem writes_nothing (s : Setup σ β) (r : Run σ β) : Writes s r r [] [] [] :=
  ⟨.refl, (List.append_nil _).symm, (List.append_nil _).symm, (List.append_nil _).symm⟩

theorem Writes.trans (h : Writes s r r' records logs new) (h' : Writes s r' r'' records' logs' new') :
    Writes s r r'' (records ++ records') (logs ++ logs') (new ++ new') where
  acts := h.acts.trans h'.acts
  results := by rw [h'.results, h.results, List.append_assoc]
  logs := by rw [h'.logs, h.logs, List.append_assoc]
  moves := by rw [h'.moves, h.moves, List.append_assoc]

theorem detached_writes : Detached s.host fun r' => Writes s r r' records logs new :=
  fun _ _ h hlab => ⟨h.acts.tail (.lab hlab), h.results, h.logs, h.moves⟩

theorem writes_move {m : Move} (hm : m.Own) (r : Run σ β) :
    Writes s r { r with moves := r.moves.push m } [] [] [m] :=
  ⟨.single (.move hm), (List.append_nil _).symm, (List.append_nil _).symm, Array.toList_push ..⟩

theorem Writes.record (h : Writes s r r' [] [] new) (x : SuiteSummary) (process : ProcessId) :
    Writes s r { r' with
      results := r'.results ++ [x]
      resultLogs := r'.resultLogs ++ [(r'.results.length, process)] }
      [x] [(r.results.length, process)] new where
  acts := h.acts.tail (.record _ _)
  results := by rw [h.results, List.append_nil]
  logs := by rw [h.logs, h.results, List.append_nil, List.append_nil]
  moves := h.moves

/-- Collecting diagnostics is one act, and at most one move. -/
theorem collect_writes (s : Setup σ β) (index : Nat) (r : Run σ β) :
    Leads (· = r) (performPlain .collectDiagnostics s.backend.collectDiagnostics index)
      fun _ r' => ∃ calls, (∀ m ∈ calls, Collects m) ∧ Writes s r r' [] [] calls := by
  rintro r rfl
  have hadds : Adds (fun _ => ()) Collects r
      ((performPlain .collectDiagnostics s.backend.collectDiagnostics index).run r).2 :=
    performPlain_keeps (robust_adds r) index (fun call hkind => ⟨call, rfl, hkind⟩) (fun _ => rfl)
      r (.refl r)
  obtain ⟨calls, hmoves, hcalls⟩ := hadds.moves
  exact ⟨calls, hcalls, .single (.collect index), hadds.results.trans (List.append_nil _).symm,
    hadds.resultLogs.trans (List.append_nil _).symm, hmoves⟩

/-! ### Launching -/

/-- The name of the device at an index. -/
def deviceAt (r : Run σ β) (index : Nat) : String := (r.devices[index]?.map Device.name).getD ""

/-- What comes of the launch of an attempt. -/
inductive Triggers (s : Setup σ β) (name : String) (index attempt : Nat) (r : Run σ β) :
    Except TriggerError SuiteRun → Run σ β → Prop where
  | launched {lab : Lab σ} {run : SuiteRun} (hlab : Lab.Retains s.host r.lab lab)
      (hrun : Fresh s.plan (fun i device => device = r.deviceAt i) index name attempt run) :
      Triggers s name index attempt r (.ok run) { r with
        lab
        moves := r.moves.push (.launched name attempt run.process)
        logNames := r.logNames ++ [(run.process, run.logFileName)] }
  | refused {lab : Lab σ} {cause : TriggerError} (hlab : Lab.Retains s.host r.lab lab)
      (hcause : ∀ d, cause ≠ .duration d) :
      Triggers s name index attempt r (.error cause)
        { r with lab, moves := r.moves.push (.refused name attempt cause) }
  /-- It is launched, and then one of its limits turns out to be no duration. -/
  | overlong {lab : Lab σ} {process : ProcessId} {cause : DurationError}
      (hlab : Lab.Retains s.host r.lab lab) (hcause : s.Overlong cause) :
      Triggers s name index attempt r (.error (.duration cause)) { r with
        lab
        moves := (r.moves.push (.launched name attempt process)).push
          (.refused name attempt (.duration cause)) }

theorem suite_eq_ok {p : RunPlan} {spec : SuiteSpec} {category : Category}
    (h : p.dispatcher.suite name = .ok (spec, category)) : p.config.suite? name = some spec := by
  unfold Dispatcher.suite at h
  cases hspec : p.config.suite? name with
  | none => simp [RunPlan.dispatcher, hspec] at h
  | some other =>
      simp only [RunPlan.dispatcher, hspec] at h
      split at h
      · cases h
      · cases h
        rfl

/-- The launch of an attempt, before it is written down if it has failed. -/
theorem launchSuite_triggers (hname : s.plan.config.selected[index]? = some name) (attempt : Nat)
    (r : Run σ β) :
    Ends (· = r) (launchSuite s name index attempt)
      (fun run r' => Triggers s name index attempt r (.ok run) r') fun cause r' =>
        Triggers s name index attempt r (.error cause)
          { r' with moves := r'.moves.push (.refused name attempt cause) } := by
  refine .bind (Q := fun run r' => run = r ∧ r' = r) (.get (by rintro _ rfl; exact ⟨rfl, rfl⟩))
    fun run => .of_eq fun r' h => ?_
  rw [h.1, h.2]
  split
  · exact .throw fun _ h => h ▸ .refused .refl (fun _ => nofun)
  next device hdevice =>
  refine .bind (Q := fun entry r' => r' = r ∧ s.plan.dispatcher.suite name = .ok entry) ?_
    fun entry => ?_
  · refine .adapt fun r' h => ?_
    cases hentry : s.plan.dispatcher.suite name with
    | ok entry => exact ⟨h, rfl⟩
    | error cause => exact h ▸ .refused .refl (fun _ => nofun)
  obtain ⟨spec, category⟩ := entry
  refine .bind (Q := fun _ r' => r' = r ∧ s.plan.dispatcher.suite name = .ok (spec, category)) ?_
    fun command => ?_
  · refine .adapt fun r' h => ?_
    cases s.plan.dispatcher.commandFor name device.slot with
    | ok command => exact h
    | error cause => exact h.1 ▸ .refused .refl (fun _ => nofun)
  refine .of_eq fun r' h => ?_
  rw [h.1]
  have hspec := suite_eq_ok h.2
  let OnlyLab (r' : Run σ β) : Prop := ∃ lab, Lab.Retains s.host r.lab lab ∧ r' = { r with lab }
  refine .bind (Q := fun _ r' => OnlyLab r') (.modifyGet fun r' h => ?_) fun launched => ?_
  · rw [h]
    exact ⟨_, Lab.launch_retains _ _ .refl, rfl⟩
  split
  · next cause =>
      refine .throw fun _ h => ?_
      obtain ⟨lab, hlab, rfl⟩ := h
      exact .refused hlab (fun _ => nofun)
  next process =>
  let Launched (r' : Run σ β) : Prop := ∃ lab, Lab.Retains s.host r.lab lab ∧
    r' = { r with lab, moves := r.moves.push (.launched name attempt process) }
  refine .bind (Q := fun _ r' => Launched r') (.modify fun _ h => ?_) fun _ => ?_
  · obtain ⟨lab, hlab, rfl⟩ := h
    exact ⟨lab, hlab, rfl⟩
  split
  · next cause hlimit =>
      refine .throw fun _ h => ?_
      obtain ⟨lab, hlab, rfl⟩ := h
      exact .overlong hlab (.limit (List.mem_of_getElem? hname) hspec hlimit)
  · refine .bind (Q := fun _ r' => Launched r') (.modifyGet fun _ h => ?_) fun now =>
      .bind (.modify fun r' h => ?_) fun _ => .pure fun _ h => h
    · obtain ⟨lab, hlab, rfl⟩ := h
      exact ⟨_, hlab.trans (Lab.sys_retains .now _ .refl), rfl⟩
    · obtain ⟨lab, hlab, rfl⟩ := h
      refine .launched hlab ⟨rfl, ?_, rfl, ?_, rfl, ⟨rfl, rfl, rfl, rfl⟩⟩
      · rw [Config.categoryOf, hspec]
        rfl
      · rw [deviceAt, hdevice]
        rfl

/-- An attempt is launched, or it is written down why not. -/
theorem trigger_triggers (hname : s.plan.config.selected[index]? = some name) (attempt : Nat)
    (r : Run σ β) :
    Leads (· = r) (trigger s name index attempt).run fun result r' =>
      Triggers s name index attempt r result r' ∧ Acts s r r' := by
  have hspec : Leads (· = r) (trigger s name index attempt).run
      (Triggers s name index attempt r) :=
    .attempt (.tryCatch (launchSuite_triggers hname attempt r) fun cause =>
      .bind (.modify fun _ h => h) fun _ => .throw fun _ h => h)
  rintro r rfl
  exact ⟨hspec r rfl, .single (.trigger hname attempt)⟩

end Run

/-! ### Turns -/

/-- What changes while the suites run. -/
structure Desk where
  /-- The number of suites that have been taken up. -/
  count : Nat
  active : List SuiteRun
  results : List SuiteSummary
  logs : List (Nat × ProcessId)
  moves : List Move

/-- A suite is taken up.  Devices at an index have a name as told by `named`. -/
inductive Taking (p : RunPlan) (blocked : List (Nat × String)) (named : Nat → String → Prop)
    (d : Desk) : Desk → Prop where
  /-- Its device is blocked. -/
  | barred {name device : String} {entry : Nat × String}
      (hname : p.config.selected[d.count]? = some name)
      (hblocked : (blocked.find? fun e => e.1 == d.count) = some entry)
      (hdevice : named d.count device) :
      Taking p blocked named d { d with
        count := d.count + 1
        results := d.results ++
          [SuiteSummary.blocked name (p.config.categoryOf name) device .install entry.2] }
  /-- It has no command. -/
  | undispatched {name device : String} {cause : CommandError}
      (hname : p.config.selected[d.count]? = some name)
      (hfree : (blocked.find? fun e => e.1 == d.count) = none) (hdevice : named d.count device) :
      Taking p blocked named d { d with
        count := d.count + 1
        results := d.results ++
          [SuiteSummary.blocked name (p.config.categoryOf name) device .dispatch cause.message]
        moves := d.moves ++ [Move.refused name 1 (.command cause)] }
  /-- Its first attempt is launched. -/
  | started {name : String} {run : SuiteRun} (hname : p.config.selected[d.count]? = some name)
      (hfree : (blocked.find? fun e => e.1 == d.count) = none)
      (hrun : Fresh p named d.count name 1 run) :
      Taking p blocked named d { d with
        count := d.count + 1
        active := d.active ++ [run]
        moves := d.moves ++ [Move.launched name 1 run.process] }

/-- An attempt has ended, for a reason if it was ended, and its output is judged. -/
structure Exited (p : RunPlan) (run : SuiteRun) (outcome : ExitOutcome) (reason : Option String)
    (exited : SuiteRun) (judgement : Classification) (output : String) : Prop where
  marked : run.markExited outcome reason = .ok exited
  judged : judgement = p.classifier.classify exited.category output exited.exitCode

/-- No attempt follows one that has ended: the moves that are made and the kind that is recorded. -/
inductive Settles (p : RunPlan) (run : SuiteRun) (judgement : Classification) (output : String) :
    Option String → List Move → Option FailureKind → Prop where
  | limit (words : String) :
      Settles p run judgement output (some words) [] (some (.ofTimeoutReason words))
  | refused (cause : TriggerError)
      (hwants : Run.wantsRerun (p.config.suite? run.suite) judgement output = true)
      (hlimit : run.attempt < p.config.runLimit run.suite) :
      Settles p run judgement output none [.refused run.suite (run.attempt + 1) cause]
        (some .dispatch)
  | exhausted (hwants : Run.wantsRerun (p.config.suite? run.suite) judgement output = true)
      (hlimit : ¬run.attempt < p.config.runLimit run.suite) :
      Settles p run judgement output none [] (some .rerunExhausted)
  | plain (hwants : Run.wantsRerun (p.config.suite? run.suite) judgement output = false) :
      Settles p run judgement output none [] (if judgement.ambiguous then some .ambiguous else none)

/-- What comes of an attempt that has ended: whether another one follows, the moves that are made,
and the record if there is one. -/
inductive Completes (p : RunPlan) (named : Nat → String → Prop) (run : SuiteRun)
    (outcome : ExitOutcome) :
    Option String → Option SuiteRun → List Move → Option SuiteSummary → Prop where
  | again {exited next : SuiteRun} {judgement : Classification} {output : String}
      {calls : List Move} (h : Exited p run outcome none exited judgement output)
      (hcalls : ∀ m ∈ calls, Run.Collects m)
      (hwants : Run.wantsRerun (p.config.suite? exited.suite) judgement output = true)
      (hlimit : exited.attempt < p.config.runLimit exited.suite)
      (hnext : Fresh p named exited.deviceIndex exited.suite (exited.attempt + 1) next) :
      Completes p named run outcome none (some next) (Move.ended exited judgement output ::
        (calls ++ [Move.launched exited.suite (exited.attempt + 1) next.process])) none
  | judged {reason : Option String} {exited : SuiteRun} {judgement : Classification}
      {output : String} {calls new : List Move} {kind : Option FailureKind}
      (h : Exited p run outcome reason exited judgement output)
      (hcalls : ∀ m ∈ calls, Run.Collects m)
      (hkind : Settles p exited judgement output reason new kind) (durationMs : Nat) :
      Completes p named run outcome reason none
        (Move.ended exited judgement output :: (calls ++ new))
        (some (.classified exited.suite exited.category exited.device exited.attempt judgement kind
          durationMs))

/-- An active attempt has been looked at: what is active in its place, the moves that are made, and
the record if there is one. -/
def Desk.finish (d : Desk) (before after : List SuiteRun) (process : ProcessId)
    (next : Option SuiteRun) (new : List Move) (record : Option SuiteSummary) : Desk :=
  { d with
    active := before ++ (next.toList ++ after)
    results := d.results ++ record.toList
    logs := d.logs ++ record.toList.map fun _ => (d.results.length, process)
    moves := d.moves ++ new }

/-- What becomes of one active attempt. -/
inductive Watching (p : RunPlan) (named : Nat → String → Prop) (d : Desk) : Desk → Prop where
  /-- A move that is about no suite. -/
  | aside {m : Move} (hm : m.Idle) : Watching p named d { d with moves := d.moves ++ [m] }
  /-- It goes on. -/
  | watched {before after : List SuiteRun} {run : SuiteRun}
      (hactive : d.active = before ++ run :: after) (watch : TimeoutWatch) :
      Watching p named d (d.finish before after run.process (some { run with watch }) [] none)
  /-- It has ended. -/
  | completed {before after : List SuiteRun} {run : SuiteRun} {outcome : ExitOutcome}
      {reason : Option String} {next : Option SuiteRun} {new : List Move}
      {record : Option SuiteSummary} (hactive : d.active = before ++ run :: after)
      (h : Completes p named run outcome reason next new record) :
      Watching p named d (d.finish before after run.process next new record)
  /-- It cannot be followed any more, and is recorded. -/
  | lost {before after : List SuiteRun} {run : SuiteRun}
      (hactive : d.active = before ++ run :: after) (cause : SupervisorError) :
      Watching p named d (d.finish before after run.process none [Move.lost run cause]
        (some (.errored run.suite run.category run.device run.attempt .launch cause.message)))

/-- The moves of an attempt that is launched although one of its limits is no duration. -/
def Move.overlong (name : String) (attempt : Nat) (process : ProcessId) (cause : DurationError) :
    List Move :=
  [.launched name attempt process, .refused name attempt (.duration cause)]

/-- Another attempt is to follow one that has ended, and a limit of it turns out to be no duration. -/
inductive Breaking (p : RunPlan) (cause : DurationError) (d : Desk) : Desk → Prop where
  | next {before after : List SuiteRun} {run exited : SuiteRun} {outcome : ExitOutcome}
      {judgement : Classification} {output : String} {calls : List Move} {process : ProcessId}
      (hactive : d.active = before ++ run :: after)
      (h : Exited p run outcome none exited judgement output)
      (hcalls : ∀ m ∈ calls, Run.Collects m) :
      Breaking p cause d { d with
        moves := d.moves ++ Move.ended exited judgement output ::
          (calls ++ Move.overlong exited.suite (exited.attempt + 1) process cause) }

/-- The end of an attempt whose run is cancelled: how it has ended, and how long it has taken. -/
structure Cancellation where
  run : SuiteRun
  ending : Except SupervisorError ExitOutcome
  durationMs : Nat

namespace Cancellation

def move (x : Cancellation) : Move := .cancelled x.run x.ending

def record (x : Cancellation) : SuiteSummary :=
  .cancelled x.run.suite x.run.category x.run.device x.run.attempt x.durationMs

end Cancellation

/-- The active attempts are ended one after the other because the run is cancelled. -/
inductive Cancelling : Desk → List Cancellation → Desk → Prop where
  | none {d : Desk} (hactive : d.active = []) : Cancelling d [] d
  | next {d d' : Desk} {row : Cancellation} {rows : List Cancellation} {rest : List SuiteRun}
      (hactive : d.active = row.run :: rest)
      (hrest : Cancelling (d.finish [] rest row.run.process none [row.move] (some row.record)) rows d') :
      Cancelling d (row :: rows) d'

/-- All that is ended is recorded, each once. -/
theorem Cancelling.rows {d d' : Desk} {rows : List Cancellation} (h : Cancelling d rows d') :
    rows.map Cancellation.run = d.active ∧
      d'.results = d.results ++ rows.map Cancellation.record ∧
      d'.moves = d.moves ++ rows.map Cancellation.move := by
  induction h with
  | none hactive => simp [hactive]
  | next hactive _ ih =>
      obtain ⟨hruns, hresults, hmoves⟩ := ih
      rw [List.map_cons, hruns, hactive, hresults, hmoves]
      simp [Desk.finish]

/-- The active attempts are new ones of selected suites. -/
def Desk.Runs (p : RunPlan) (d : Desk) : Prop := ∀ run ∈ d.active, run.Runs p

/-- The move is made while the suites run, and not because the wish to cancel has been seen. -/
def Move.Busy (m : Move) : Prop := m.Idle ∨ m.In .suitesRunning

theorem Run.Collects.busy {m : Move} (h : Run.Collects m) : m.Busy := .inl h.idle

theorem Settles.busy {p : RunPlan} {run : SuiteRun} {judgement : Classification} {output : String}
    {reason : Option String} {new : List Move} {kind : Option FailureKind}
    (h : Settles p run judgement output reason new kind) : ∀ m ∈ new, m.Busy := by
  cases h with
  | refused => exact List.forall_mem_singleton.2 (.inr rfl)
  | _ => exact fun _ hm => absurd hm List.not_mem_nil

/-- A turn only adds to what has been written down. -/
theorem Taking.moves {p : RunPlan} {blocked : List (Nat × String)} {named : Nat → String → Prop}
    {d d' : Desk} (h : Taking p blocked named d d') :
    ∃ new, d'.moves = d.moves ++ new ∧ ∀ m ∈ new, m.Busy := by
  cases h with
  | barred => exact ⟨[], (List.append_nil _).symm, by simp⟩
  | undispatched => exact ⟨_, rfl, List.forall_mem_singleton.2 (.inr rfl)⟩
  | started => exact ⟨_, rfl, List.forall_mem_singleton.2 (.inr rfl)⟩

theorem Completes.busy {p : RunPlan} {named : Nat → String → Prop} {run : SuiteRun}
    {outcome : ExitOutcome} {reason : Option String} {next : Option SuiteRun} {new : List Move}
    {record : Option SuiteSummary} (h : Completes p named run outcome reason next new record) :
    ∀ m ∈ new, m.Busy := by
  cases h with
  | again h hcalls =>
      exact List.forall_mem_cons.2 ⟨.inr rfl, List.forall_mem_append.2
        ⟨fun m hm => (hcalls m hm).busy, List.forall_mem_singleton.2 (.inr rfl)⟩⟩
  | judged h hcalls hkind =>
      exact List.forall_mem_cons.2 ⟨.inr rfl, List.forall_mem_append.2
        ⟨fun m hm => (hcalls m hm).busy, hkind.busy⟩⟩

theorem Watching.moves {p : RunPlan} {named : Nat → String → Prop} {d d' : Desk}
    (h : Watching p named d d') : ∃ new, d'.moves = d.moves ++ new ∧ ∀ m ∈ new, m.Busy := by
  cases h with
  | aside hm => exact ⟨_, rfl, List.forall_mem_singleton.2 (.inl hm)⟩
  | watched => exact ⟨[], rfl, by simp⟩
  | completed _ h => exact ⟨_, rfl, h.busy⟩
  | lost => exact ⟨_, rfl, List.forall_mem_singleton.2 (.inr rfl)⟩

/-- What has been written down before a turn is still written down after it. -/
theorem Taking.moves_subset {p : RunPlan} {blocked : List (Nat × String)}
    {named : Nat → String → Prop} {d d' : Desk} (h : Taking p blocked named d d') :
    d.moves ⊆ d'.moves := by
  obtain ⟨new, hnew, -⟩ := h.moves
  rw [hnew]
  exact List.subset_append_left _ _

theorem Watching.moves_subset {p : RunPlan} {named : Nat → String → Prop} {d d' : Desk}
    (h : Watching p named d d') : d.moves ⊆ d'.moves := by
  obtain ⟨new, hnew, -⟩ := h.moves
  rw [hnew]
  exact List.subset_append_left _ _

theorem Breaking.moves {p : RunPlan} {cause : DurationError} {d d' : Desk}
    (h : Breaking p cause d d') : ∃ new, d'.moves = d.moves ++ new ∧ ∀ m ∈ new, m.Busy := by
  cases h with
  | next _ _ hcalls =>
      exact ⟨_, rfl, List.forall_mem_cons.2 ⟨.inr rfl, List.forall_mem_append.2
        ⟨fun m hm => (hcalls m hm).busy, by simp [Move.overlong, Move.Busy, Move.In, Move.phase?]⟩⟩⟩

section Runs

variable {p : RunPlan} {blocked : List (Nat × String)} {named : Nat → String → Prop} {d d' : Desk}
  {run exited : SuiteRun} {outcome : ExitOutcome} {reason : Option String}
  {judgement : Classification} {output : String}

theorem Taking.runs (h : Taking p blocked named d d') (hd : d.Runs p) : d'.Runs p := by
  cases h with
  | barred => exact hd
  | undispatched => exact hd
  | started hname _ hrun =>
      exact List.forall_mem_append.2 ⟨hd, List.forall_mem_singleton.2 (hrun.runs hname)⟩

/-- An attempt that has ended is still one of its suite. -/
theorem Exited.same (h : Exited p run outcome reason exited judgement output) (hnew : run.IsNew) :
    exited = { run with state := .exited, outcome := some outcome, timeoutReason := reason } := by
  have hmarked := h.marked
  rw [SuiteRun.markExited_ok hnew.state] at hmarked
  exact (Except.ok.inj hmarked).symm

/-- What follows an attempt is an attempt of the same suite. -/
theorem Completes.runs {new : List Move} {record : Option SuiteSummary} {next : Option SuiteRun}
    (h : Completes p named run outcome reason next new record) (hrun : run.Runs p) :
    ∀ again ∈ next, again.Runs p := by
  rintro again hagain
  cases h with
  | judged => cases hagain
  | again hexited _ _ _ hnext =>
      cases hagain
      refine hnext.runs ?_
      rw [hexited.same hrun.new]
      exact hrun.place

theorem mem_active {active before after : List SuiteRun} (h : active = before ++ run :: after) :
    run ∈ active :=
  h ▸ List.mem_append_right _ (List.mem_cons_self ..)

/-- What follows an attempt, and what is written down about it, is about its suite: there is another
attempt of it, or its record. -/
structure Concerns (run : SuiteRun) (next : Option SuiteRun) (new : List Move)
    (record : Option SuiteSummary) : Prop where
  one : next.toList.map SuiteRun.suite ++ record.toList.map SuiteSummary.suite = [run.suite]
  moves : ∀ m ∈ new, ∀ name, m.suite? = some name → name = run.suite
  status : ∀ x ∈ record, x.status ≠ .blocked

theorem Concerns.next {new : List Move} {record : Option SuiteSummary} {next : Option SuiteRun}
    (h : Concerns run next new record) : ∀ again ∈ next, again.suite = run.suite := by
  rintro again ⟨⟩
  exact (List.cons.inj h.one).1

theorem Concerns.record {new : List Move} {record : Option SuiteSummary} {next : Option SuiteRun}
    (h : Concerns run next new record) : ∀ x ∈ record, x.suite = run.suite := by
  rintro x ⟨⟩
  have hmem : x.suite ∈ next.toList.map SuiteRun.suite ++ [x.suite] := by simp
  exact List.mem_singleton.1 (h.one ▸ hmem)

/-- An attempt goes on. -/
theorem concerns_watched (run : SuiteRun) (watch : TimeoutWatch) :
    Concerns run (some { run with watch }) [] none :=
  ⟨rfl, by simp, by simp⟩

/-- An attempt is recorded that is not followed to its end. -/
theorem concerns_cutOff {m : Move} {x : SuiteSummary} (hm : m.suite? = none)
    (hsuite : x.suite = run.suite) (hstatus : x.status ≠ .blocked) :
    Concerns run none [m] (some x) := by
  refine ⟨congrArg (fun name => [name]) hsuite, by simp [hm], ?_⟩
  rintro _ ⟨⟩
  exact hstatus

theorem Completes.concerns {new : List Move} {record : Option SuiteSummary}
    {next : Option SuiteRun} (h : Completes p named run outcome reason next new record)
    (hrun : run.IsNew) : Concerns run next new record := by
  have hcalls : ∀ {calls : List Move}, (∀ m ∈ calls, Run.Collects m) →
      ∀ m ∈ calls, ∀ name, m.suite? = some name → name = run.suite := by
    intro calls hcalls m hm name hname
    obtain ⟨call, rfl, -⟩ := hcalls m hm
    cases hname
  cases h with
  | again hexited hcollects _ _ hnext =>
      have hsuite := congrArg SuiteRun.suite (hexited.same hrun)
      refine ⟨congrArg (fun name => [name]) (hnext.suite.trans hsuite), List.forall_mem_cons.2
        ⟨?_, List.forall_mem_append.2 ⟨hcalls hcollects, List.forall_mem_singleton.2 ?_⟩⟩, by simp⟩
      · rintro _ ⟨⟩
        exact hsuite
      · rintro _ ⟨⟩
        exact hsuite
  | judged hexited hcollects hkind durationMs =>
      have hsuite := congrArg SuiteRun.suite (hexited.same hrun)
      refine ⟨congrArg (fun name => [name]) hsuite, List.forall_mem_cons.2
        ⟨?_, List.forall_mem_append.2 ⟨hcalls hcollects, ?_⟩⟩, ?_⟩
      · rintro _ ⟨⟩
        exact hsuite
      · cases hkind <;> simp [Move.suite?]
      · rintro _ ⟨⟩
        exact SuiteStatus.noConfusion

/-- A turn is about no suite, or about that of one active attempt. -/
theorem Watching.concerns (h : Watching p named d d') (hd : d.Runs p) :
    (∃ m : Move, m.Idle ∧ d' = { d with moves := d.moves ++ [m] }) ∨
      ∃ before run after next new record, d.active = before ++ run :: after ∧
        Concerns run next new record ∧ d' = d.finish before after run.process next new record := by
  cases h with
  | aside hm => exact .inl ⟨_, hm, rfl⟩
  | watched hactive watch =>
      exact .inr ⟨_, _, _, _, _, _, hactive, concerns_watched _ watch, rfl⟩
  | completed hactive h =>
      exact .inr ⟨_, _, _, _, _, _, hactive, h.concerns (hd _ (mem_active hactive)).new, rfl⟩
  | lost hactive cause =>
      exact .inr ⟨_, _, _, _, _, _, hactive,
        concerns_cutOff rfl rfl SuiteStatus.noConfusion, rfl⟩

theorem Desk.Runs.finish (hd : d.Runs p) {before after : List SuiteRun}
    (hactive : d.active = before ++ run :: after) {next : Option SuiteRun}
    (hnext : ∀ again ∈ next, again.Runs p) (process : ProcessId) (new : List Move)
    (record : Option SuiteSummary) : (d.finish before after process next new record).Runs p := by
  unfold Desk.Runs at hd
  rw [hactive, List.forall_mem_append, List.forall_mem_cons] at hd
  refine List.forall_mem_append.2 ⟨hd.1, List.forall_mem_append.2 ⟨fun again hagain => ?_, hd.2.2⟩⟩
  exact hnext again (Option.mem_toList.1 hagain)

theorem Watching.runs (h : Watching p named d d') (hd : d.Runs p) : d'.Runs p := by
  cases h with
  | aside => exact hd
  | watched hactive watch =>
      obtain ⟨⟨hstate, houtcome, hreason, hjudged⟩, hplace⟩ := hd _ (mem_active hactive)
      refine hd.finish hactive ?_ _ _ _
      rintro _ ⟨⟩
      exact ⟨⟨hstate, houtcome, hreason, hjudged⟩, hplace⟩
  | completed hactive h => exact hd.finish hactive (h.runs (hd _ (mem_active hactive))) _ _ _
  | lost hactive => exact hd.finish hactive (by simp) _ _ _

end Runs

namespace Run

variable {σ β κ : Type} {kept : Device → κ} {s : Setup σ β} {r r' r₀ : Run σ β} {run : SuiteRun}
  {name : String} {index attempt count : Nat} {active : List SuiteRun} {d : Desk} {records : List SuiteSummary}
  {logs : List (Nat × ProcessId)} {new : List Move} {named : Nat → String → Prop}
  {blocked : List (Nat × String)}

/-! ### What comes of an attempt that has ended -/

/-- A launch is written down, and nothing else is. -/
theorem Triggers.writes {result : Except TriggerError SuiteRun}
    (h : Triggers s name index attempt r result r' ∧ Acts s r r') :
    ∃ new, Writes s r r' [] [] new ∧ match result with
      | .ok run => new = [.launched name attempt run.process]
      | .error (.duration cause) =>
          s.Overlong cause ∧ ∃ process, new = Move.overlong name attempt process cause
      | .error cause => new = [.refused name attempt cause] := by
  obtain ⟨h, hacts⟩ := h
  have hwrites : ∀ new, r'.moves.toList = r.moves.toList ++ new → r'.results = r.results →
      r'.resultLogs = r.resultLogs → Writes s r r' [] [] new := fun new hmoves hresults hlogs =>
    ⟨hacts, hresults.trans (List.append_nil _).symm, hlogs.trans (List.append_nil _).symm, hmoves⟩
  cases h with
  | launched => exact ⟨_, hwrites _ (Array.toList_push ..) rfl rfl, rfl⟩
  | @refused _ cause _ hcause =>
      refine ⟨_, hwrites _ (Array.toList_push ..) rfl rfl, ?_⟩
      cases cause with
      | duration cause => exact absurd rfl (hcause cause)
      | _ => rfl
  | @overlong _ process _ _ hcause =>
      refine ⟨Move.overlong name attempt process _, hwrites _ ?_ rfl rfl, hcause, process, rfl⟩
      rw [Array.toList_push, Array.toList_push, List.append_assoc]
      rfl

/-- The names of the devices are as told by `named`, and this stays so while the run acts. -/
def Named (s : Setup σ β) (named : Nat → String → Prop) (r : Run σ β) : Prop :=
  ∀ r', Acts s r r' → ∀ i, named i (r'.deviceAt i)

theorem Named.acts (h : Named s named r) (hacts : Acts s r r') : Named s named r' :=
  fun _ hmore => h _ (hacts.trans hmore)

theorem Triggers.fresh (h : Triggers s name index attempt r (.ok run) r')
    (hnamed : Named s named r) : Fresh s.plan named index name attempt run := by
  cases h with
  | launched _ hrun => exact { hrun with device := hrun.device ▸ hnamed r .refl index }

/-- Another attempt is launched after one that has ended, or not. -/
inductive Follows (s : Setup σ β) (named : Nat → String → Prop) (run : SuiteRun)
    (judgement : Classification) (output : String) (r : Run σ β) :
    Option String → Sequel → Run σ β → Prop where
  | rerun {next : SuiteRun} {r' : Run σ β}
      (hwants : wantsRerun (s.plan.config.suite? run.suite) judgement output = true)
      (hlimit : run.attempt < s.plan.config.runLimit run.suite)
      (hnext : Fresh s.plan named run.deviceIndex run.suite (run.attempt + 1) next)
      (hwrites : Writes s r r' [] [] [.launched run.suite (run.attempt + 1) next.process]) :
      Follows s named run judgement output r none (.rerun next) r'
  | recorded {reason : Option String} {new : List Move} {kind : Option FailureKind} {r' : Run σ β}
      (hkind : Settles s.plan run judgement output reason new kind)
      (hwrites : Writes s r r' [] [] new) :
      Follows s named run judgement output r reason (.recorded kind) r'

theorem sequel_follows (hnamed : Named s named r) (reason : Option String)
    (hplace : reason = none → s.plan.config.selected[run.deviceIndex]? = some run.suite)
    (judgement : Classification) (output : String) :
    Ends (· = r) (sequel s run reason judgement output) (Follows s named run judgement output r reason)
      fun cause r' => s.Overlong cause ∧ reason = none ∧ ∃ process,
        Writes s r r' [] [] (Move.overlong run.suite (run.attempt + 1) process cause) := by
  unfold sequel
  cases reason with
  | some words =>
      refine .pure fun r' h => ?_
      rw [h]
      exact .recorded (.limit words) (writes_nothing s r)
  | none =>
      refine .ite (fun hwants => .ite (fun hlimit => ?_) fun hlimit => ?_) fun hwants => ?_
      · refine .bind (.lift (trigger_triggers (hplace rfl) _ r)) fun result => ?_
        cases result with
        | ok next =>
            refine .pure fun r' h => ?_
            obtain ⟨_, hwrites, rfl⟩ := Triggers.writes h
            exact .rerun hwants hlimit (h.1.fresh hnamed) hwrites
        | error cause =>
            cases cause with
            | duration cause =>
                refine .throw fun r' h => ?_
                obtain ⟨_, hwrites, hcause, process, rfl⟩ := Triggers.writes h
                exact ⟨hcause, rfl, process, hwrites⟩
            | _ =>
                refine .pure fun r' h => ?_
                obtain ⟨_, hwrites, rfl⟩ := Triggers.writes h
                exact .recorded (.refused _ hwants hlimit) hwrites
      · refine .pure fun r' h => ?_
        rw [h]
        exact .recorded (.exhausted hwants hlimit) (writes_nothing s r)
      · refine .pure fun r' h => ?_
        rw [h]
        exact .recorded (.plain (Bool.not_eq_true _ ▸ hwants)) (writes_nothing s r)

theorem elapsedMs_detached {I : Run σ β → Prop} (hI : Detached s.host I) (run : SuiteRun) :
    Preserves I (elapsedMs s run) :=
  .bind (onLab_detached hI fun _ => Lab.sys_retains .now) fun _ => .pure

/-- A step that can be taken leaves nothing to write down. -/
theorem noteMisstep_ok {P : Run σ β → Prop} (next : SuiteRun) :
    Leads P (noteMisstep (.ok next)) fun _ => P :=
  .pure fun _ hr => hr

/-- An attempt that has ended is judged; then there is another one, or a record, or a limit turns
out to be no duration. -/
theorem complete_completes (hnamed : Named s named r) (hnew : run.IsNew) (outcome : ExitOutcome)
    (reason : Option String)
    (hplace : reason = none → s.plan.config.selected[run.deviceIndex]? = some run.suite) :
    Ends (· = r) (complete s run outcome reason)
      (fun next r' => ∃ new record, Completes s.plan named run outcome reason next new record ∧
        Writes s r r' record.toList
          (record.toList.map fun _ => (r.results.length, run.process)) new)
      fun cause r' => s.Overlong cause ∧ reason = none ∧ ∃ exited judgement output calls process,
        Exited s.plan run outcome none exited judgement output ∧ (∀ m ∈ calls, Collects m) ∧
        Writes s r r' [] [] (.ended exited judgement output ::
          (calls ++ Move.overlong exited.suite (exited.attempt + 1) process cause)) := by
  unfold complete
  obtain ⟨exited, hmarked⟩ : ∃ exited, run.markExited outcome reason = .ok exited :=
    ⟨_, SuiteRun.markExited_ok hnew.state outcome reason⟩
  obtain ⟨hstate, hprocess, hplace⟩ : exited.state = .exited ∧ exited.process = run.process ∧
      (reason = none → s.plan.config.selected[exited.deviceIndex]? = some exited.suite) := by
    rw [SuiteRun.markExited_ok hnew.state] at hmarked
    cases hmarked
    exact ⟨rfl, rfl, hplace⟩
  have hnext : (Except.ok exited : Except SuiteTransitionError SuiteRun).toOption.getD run =
    exited := rfl
  rw [hmarked, hnext]
  refine .bind (.lift (noteMisstep_ok _)) fun _ => ?_
  dsimp only
  refine .bind (Q := fun _ r' => Writes s r r' [] [] []) (Ends.conseq
    (onLab_detached' detached_writes fun _ => Lab.readOutput_retains)
    (fun _ h => h ▸ writes_nothing s r) (fun _ _ h => h) fun _ _ h => h) fun read => ?_
  generalize read.toOption.getD "" = output
  generalize hjudged : s.plan.classifier.classify exited.category output exited.exitCode = judgement
  have hending : Exited s.plan run outcome reason exited judgement output := ⟨hmarked, hjudged.symm⟩
  refine .bind (Q := fun _ r' => Writes s r r' [] [] [.ended exited judgement output])
    (.modify fun r' h => h.trans (writes_move (m := .ended exited judgement output) trivial r')) fun _ => ?_
  refine .bind (Q := fun _ r' => ∃ calls, (∀ m ∈ calls, Collects m) ∧
    Writes s r r' [] [] (.ended exited judgement output :: calls)) (.lift (.of_eq fun r₁ h₁ =>
      (collect_writes s exited.deviceIndex r₁).weaken fun _ r₂ h₂ => ?_)) fun _ =>
        .of_eq fun r₂ h₂ => ?_
  · obtain ⟨calls, hcalls, hwrites⟩ := h₂
    exact ⟨calls, hcalls, h₁.trans hwrites⟩
  obtain ⟨calls, hcalls, hended⟩ := h₂
  refine .bind ((sequel_follows (hnamed.acts hended.acts) reason hplace judgement output).weaken
    (fun _ _ h => h) fun cause r₃ h => ?_) fun next => .of_eq fun r₃ h => ?_
  · obtain ⟨hcause, rfl, process, hwrites⟩ := h
    exact ⟨hcause, rfl, exited, judgement, output, calls, process, hending, hcalls,
      hended.trans hwrites⟩
  cases h with
  | rerun hwants hlimit hfresh hwrites =>
      refine .pure fun r' h => ?_
      rw [h]
      exact ⟨_, none, .again hending hcalls hwants hlimit hfresh, hended.trans hwrites⟩
  | @recorded _ new kind _ hkind hwrites =>
      rw [SuiteRun.markClassified_ok hstate]
      refine .bind (.lift (noteMisstep_ok _)) fun _ => ?_
      refine .bind (Q := fun _ r' => Writes s r r' [] [] (.ended exited judgement output ::
        (calls ++ new))) (.lift (Leads.conseq (elapsedMs_detached detached_writes exited)
          (fun _ h => h ▸ hended.trans hwrites) fun _ _ h => h)) fun ms => ?_
      refine .bind (Q := fun _ r' => ∃ new record,
        Completes s.plan named run outcome reason none new record ∧ Writes s r r' record.toList
          (record.toList.map fun _ => (r.results.length, run.process)) new)
        (.modify fun r' h => ?_) fun _ => .pure fun _ h => h
      exact ⟨_, _, .judged hending hcalls hkind ms, hprocess ▸ h.record _ _⟩

/-! ### Rows of turns -/

/-- The desk of a run of which some suites have been taken up and some attempts are active. -/
def desk (r : Run σ β) (count : Nat) (active : List SuiteRun) : Desk :=
  ⟨count, active, r.results, r.resultLogs, r.moves.toList⟩

theorem Cancelling.written {rows : List Cancellation} (h : Cancelling d rows (r.desk count active)) :
    rows.map Cancellation.run = d.active ∧
      r.results = d.results ++ rows.map Cancellation.record ∧
      r.moves.toList = d.moves ++ rows.map Cancellation.move :=
  h.rows

theorem Writes.desk (h : Writes s r r' records logs new) (count : Nat) (active : List SuiteRun) :
    r'.desk count active = ⟨count, active, r.results ++ records, r.resultLogs ++ logs,
      r.moves.toList ++ new⟩ := by
  rw [Run.desk, h.results, h.logs, h.moves]

/-- Nothing but moves has been written. -/
theorem Writes.desk_moves (h : Writes s r r' [] [] new) (count : Nat) (active : List SuiteRun) :
    r'.desk count active = { r.desk count active with moves := r.moves.toList ++ new } := by
  rw [h.desk, List.append_nil, List.append_nil, Run.desk]

/-- From a state and a desk on, the run has acted, and its suites have taken such turns. -/
structure Reached (s : Setup σ β) (turn : Desk → Desk → Prop) (r₀ : Run σ β) (d : Desk) (count : Nat)
    (active : List SuiteRun) (r : Run σ β) : Prop where
  acts : Acts s r₀ r
  turns : ReflTransGen turn d (r.desk count active)

theorem detached_reached {turn : Desk → Desk → Prop} :
    Detached s.host (Reached s turn r₀ d count active) :=
  fun _ _ h hlab => ⟨h.acts.tail (.lab hlab), h.turns⟩

/-- What has been written belongs to one turn. -/
theorem Reached.turn {turn : Desk → Desk → Prop} {count' : Nat} {active' : List SuiteRun}
    (h : Reached s turn r₀ d count active r) (hwrites : Writes s r r' records logs new)
    (hturn : turn (r.desk count active) ⟨count', active', r.results ++ records,
      r.resultLogs ++ logs, r.moves.toList ++ new⟩) :
    Reached s turn r₀ d count' active' r' := by
  refine ⟨h.acts.trans hwrites.acts, h.turns.tail ?_⟩
  rwa [hwrites.desk]

/-- Looks that have not seen the wish to cancel are turns about no suite. -/
theorem Reached.looked (h : Reached s (Watching s.plan named) r₀ d count active r)
    (hlook : Looked false r r') (hacts : Acts s r r') :
    Reached s (Watching s.plan named) r₀ d count active r' := by
  refine ⟨h.acts.trans hacts, ?_⟩
  obtain ⟨k, hmoves⟩ := hlook.moves
  rw [← List.replicate_succ'] at hmoves
  rw [desk, hlook.adds.results, hlook.adds.resultLogs, hmoves]
  clear hmoves
  induction k + 1 with
  | zero =>
      rw [List.replicate_zero, List.append_nil]
      exact h.turns
  | succ k ih =>
      rw [List.replicate_succ', ← List.append_assoc]
      exact ih.tail (.aside (m := .looked false) trivial)

theorem glance_retains {start : Lab σ} (run : SuiteRun) :
    Upholds (Lab.Retains s.host start) (glance s run) := by
  refine .bind (.of_run Lab.poll_retains) fun seen => ?_
  cases seen with
  | some outcome => exact .pure
  | none =>
      refine .bind (.of_run Lab.outputLength_retains) fun length =>
        .bind (.lift (Lab.sys_retains .now)) fun _ =>
          .bind (.lift (Lab.sys_retains .now)) fun _ => ?_
      split
      · exact .pure
      · exact .bind (.of_run Lab.terminate_retains) fun _ => .pure

theorem lose_writes (run : SuiteRun) (cause : SupervisorError) (r : Run σ β) :
    Leads (· = r) (lose s run cause) fun _ r' => Writes s r r'
      [.errored run.suite run.category run.device run.attempt .launch cause.message]
      [(r.results.length, run.process)] [.lost run cause] := by
  refine .bind (Q := fun _ r' => Writes s r r' [] [] []) (.discard (Leads.conseq
    (onLab_detached detached_writes fun _ => Lab.terminate_retains)
    (fun _ h => h ▸ writes_nothing s r) fun _ _ h => h)) fun _ => ?_
  refine .bind (Q := fun _ r' => Writes s r r' [] [] [.lost run cause]) (.modify fun r' h => ?_)
    fun _ => .modify fun r' h => h.record _ run.process
  exact h.trans (writes_move (m := .lost run cause) trivial r')

/-- One look at an active attempt is one turn; or a limit turns out to be no duration. -/
theorem pollOne_turns (hnamed : Named s named r₀) (before after : List SuiteRun)
    (hrun : run.Runs s.plan) :
    Ends (Reached s (Watching s.plan named) r₀ d count (before ++ run :: after)) (pollOne s run)
      (fun next => Reached s (Watching s.plan named) r₀ d count (before ++ (next.toList ++ after)))
      fun cause r => Acts s r₀ r ∧ s.Overlong cause ∧ ∃ d₁ active,
        ReflTransGen (Watching s.plan named) d d₁ ∧
          Breaking s.plan cause d₁ (r.desk count active) := by
  refine .bind (onLab_detached' detached_reached fun _ => .attempt (glance_retains run))
    fun seen => ?_
  split
  · next watch => exact .pure fun r hr => hr.turn (writes_nothing s r) (.watched rfl watch)
  · refine .of_eq fun r hr => (complete_completes (hnamed.acts hr.acts) hrun.new _ _
      fun _ => hrun.place).weaken (fun next r' h => ?_) fun cause r' h => ?_
    · obtain ⟨new, record, hcompletes, hwrites⟩ := h
      exact hr.turn hwrites (.completed rfl hcompletes)
    · obtain ⟨hcause, rfl, exited, judgement, output, calls, process, hending, hcalls, hwrites⟩ := h
      refine ⟨hr.acts.trans hwrites.acts, hcause, _, before ++ run :: after, hr.turns, ?_⟩
      rw [hwrites.desk_moves]
      exact .next rfl hending hcalls
  · next cause =>
      refine .of_eq fun r hr => .bind (.lift (lose_writes run cause r)) fun _ => .pure fun r' h => ?_
      exact hr.turn h (.lost rfl cause)

/-- One look at some of the active attempts is a row of turns. -/
theorem pollEach_turns (hnamed : Named s named r₀) (count : Nat) (before runs after : List SuiteRun)
    (hruns : ∀ run ∈ runs, run.Runs s.plan) :
    Ends (Reached s (Watching s.plan named) r₀ d count (before ++ (runs ++ after))) (pollEach s runs)
      (fun next => Reached s (Watching s.plan named) r₀ d count (before ++ (next ++ after)))
      fun cause r => Acts s r₀ r ∧ s.Overlong cause ∧ ∃ d₁ active,
        ReflTransGen (Watching s.plan named) d d₁ ∧
          Breaking s.plan cause d₁ (r.desk count active) := by
  induction runs generalizing before with
  | nil => exact .pure fun _ hr => hr
  | cons run rest ih =>
      obtain ⟨hrun, hrest⟩ := List.forall_mem_cons.1 hruns
      refine .bind (pollOne_turns hnamed before (rest ++ after) hrun) fun next => ?_
      refine .bind ((ih (before ++ next.toList) hrest).conseq (fun r hr => ?_) (fun _ _ h => h)
        fun _ _ h => h) fun later => .pure fun r hr => ?_
      · rwa [List.append_assoc]
      · rwa [List.append_assoc, ← List.append_assoc next.toList] at hr

/-! ### Cancelling -/

theorem cancelRun_writes (hnew : run.IsNew) (r : Run σ β) :
    Leads (· = r) (cancelRun s run) fun _ r' => ∃ row : Cancellation, row.run = run ∧
      Writes s r r' [row.record] [(r.results.length, run.process)] [row.move] := by
  refine .bind (Q := fun _ r' => Writes s r r' [] [] []) (Leads.conseq
    (onLab_detached detached_writes fun _ => Lab.terminate_retains)
    (fun _ h => h ▸ writes_nothing s r) fun _ _ h => h) fun ending => ?_
  rw [SuiteRun.markExited_ok hnew.state]
  refine .bind (noteMisstep_ok _) fun _ => ?_
  refine .bind (Q := fun _ r' => Writes s r r' [] [] [.cancelled run ending])
    (.modify fun r' h => ?_) fun _ => ?_
  · exact h.trans (writes_move (m := .cancelled run ending) trivial r')
  refine .bind (elapsedMs_detached detached_writes run) fun ms => .modify fun r' h => ?_
  exact ⟨⟨run, ending, ms⟩, rfl, h.record _ run.process⟩

/-- Every active attempt is ended and recorded, each once. -/
theorem cancelRuns_cancels (count : Nat) (hactive : ∀ run ∈ active, run.IsNew) (r : Run σ β) :
    Leads (· = r) (cancelRuns s active) fun _ r' => Acts s r r' ∧
      ∃ rows, Cancelling (r.desk count active) rows (r'.desk count []) := by
  induction active generalizing r with
  | nil =>
      refine .pure fun r' h => ?_
      rw [h]
      exact ⟨.refl, [], .none rfl⟩
  | cons run rest ih =>
      obtain ⟨hrun, hrest⟩ := List.forall_mem_cons.1 hactive
      refine .bind (cancelRun_writes hrun r) fun _ => .of_eq fun r₁ h₁ =>
        (ih hrest r₁).weaken fun _ r₂ h₂ => ?_
      obtain ⟨row, rfl, hwrites⟩ := h₁
      obtain ⟨hacts, rows, hrows⟩ := h₂
      refine ⟨hwrites.acts.trans hacts, row :: rows, .next rfl ?_⟩
      rwa [hwrites.desk] at hrows

/-- While it waits for the next look the run only looks; if it sees the wish to cancel, the active
attempts are ended, and if the clock ends before the wait nothing is done. -/
theorem awaitLook_looked (count : Nat) (hactive : ∀ run ∈ active, run.IsNew) (r : Run σ β) :
    Ends (· = r) (awaitLook s active) (fun _ r' => Looked false r r' ∧ Acts s r r')
      fun stop r' => Acts s r r' ∧
        ((∃ r₁ rows, Looked true r r₁ ∧ Acts s r r₁ ∧
          Cancelling (r₁.desk count active) rows (r'.desk count []) ∧
          stop = .phase (.failure r'.machine.phase .cancelled "run cancelled")) ∨
        stop = .broken (.duration .pastClock) ∧ s.host.Overruns s.plan.timing.pollInterval ∧
          Silent r r') := by
  have hsleep := (sleep_looked s.host s.plan.timing.pollInterval r).and (sleep_detached
    (detached_acts s r) (fun _ b h => h.tail (.move (m := .looked b) trivial))
    s.plan.timing.pollInterval)
  refine .bind (hsleep.conseq (fun r' h => ⟨h, h ▸ .refl⟩) (fun _ _ h => h) fun stop r' h => ?_)
    fun cancelled => .ite (fun htrue => ?_) fun hfalse => .pure fun r' h => ?_
  · exact ⟨h.2.2, .inr ⟨h.1.1.1, h.1.1.2, h.1.2⟩⟩
  · subst htrue
    refine .bind (Q := fun _ r' => Acts s r r' ∧ ∃ r₁ rows, Looked true r r₁ ∧ Acts s r r₁ ∧
      Cancelling (r₁.desk count active) rows (r'.desk count [])) (.lift (.of_eq fun r₁ h₁ =>
        (cancelRuns_cancels count hactive r₁).weaken fun _ r₂ h₂ => ?_)) fun _ => ?_
    · obtain ⟨hacts, rows, hrows⟩ := h₂
      exact ⟨h₁.2.trans hacts, r₁, rows, h₁.1, h₁.2, hrows⟩
    · refine .bind (Q := fun run r' => run = r' ∧ Acts s r r' ∧ ∃ r₁ rows, Looked true r r₁ ∧
        Acts s r r₁ ∧ Cancelling (r₁.desk count active) rows (r'.desk count []))
        (.get fun _ h => ⟨rfl, h⟩) fun run => .throw fun r' h => ?_
      obtain ⟨rfl, hacts, r₁, rows, hlook, hlooked, hrows⟩ := h
      exact ⟨hacts, .inl ⟨r₁, rows, hlook, hlooked, hrows, rfl⟩⟩
  · rw [Bool.not_eq_true] at hfalse
    rwa [hfalse] at h

/-! ### Acts and other statements -/

/-- What every act leaves true is true of a run that has acted. -/
theorem Acts.keeps {I : Run σ β → Prop} (hlab : Detached s.host I)
    (hmove : ∀ r m, m.Own → I r → I { r with moves := r.moves.push m })
    (hrecord : ∀ r results resultLogs, I r → I { r with results, resultLogs })
    (hcollect : ∀ index, Preserves I
      (performPlain .collectDiagnostics s.backend.collectDiagnostics index))
    (htrigger : ∀ name index attempt, s.plan.config.selected[index]? = some name →
      Upholds I (trigger s name index attempt)) (h : Acts s r r') (hr : I r) : I r' := by
  refine kept_along (fun r₁ r₂ hact h₁ => ?_) h hr
  cases hact with
  | lab hretains => exact hlab r₁ _ h₁ hretains
  | move hm => exact hmove r₁ _ hm h₁
  | record results resultLogs => exact hrecord r₁ results resultLogs h₁
  | collect index => exact hcollect index r₁ h₁
  | trigger hname attempt => exact Ends.leads (htrigger _ _ attempt hname) r₁ h₁

/-- A statement about a run that some moves leave true, and that does not depend on what is recorded
about suites. -/
structure Apart (kept : Device → κ) (p : Move → Prop) (I : Run σ β → Prop) : Prop where
  robust : Robust kept p I
  records : ∀ r results logNames resultLogs, I r → I { r with results, logNames, resultLogs }

/-- What the moves of a launch leave true lasts through the launch. -/
theorem Triggers.keeps {I : Run σ β → Prop} (hlab : Detached s.host I)
    (hmove : ∀ r m, m.In .suitesRunning → m.call? = none → I r → I { r with moves := r.moves.push m })
    (hnames : ∀ r logNames, I r → I { r with logNames }) {result : Except TriggerError SuiteRun}
    (h : Triggers s name index attempt r result r') (hr : I r) : I r' := by
  cases h with
  | @launched lab run hretains =>
      exact hnames _ _ (hmove _ (.launched name attempt run.process) rfl rfl (hlab r _ hr hretains))
  | @refused lab cause hretains =>
      exact hmove _ (.refused name attempt cause) rfl rfl (hlab r _ hr hretains)
  | @overlong lab process cause hretains =>
      exact hmove _ (.refused name attempt (.duration cause)) rfl rfl
        (hmove _ (.launched name attempt process) rfl rfl (hlab r _ hr hretains))

/-- A run that acts keeps every statement that does not look at what is recorded about its
suites. -/
theorem Apart.acts {I : Run σ β → Prop} (hb : s.backend.Keeps kept)
    (hI : Apart kept (Move.Fits .suitesRunning) I) (h : Acts s r r') (hr : I r) : I r' := by
  refine h.keeps (hI.robust.detached s.host)
    (fun r₁ m hm h₁ => hI.robust r₁ _ h₁ (adds_move r₁ hm.fits))
    (fun r₁ results logs h₁ => hI.records r₁ results _ logs h₁)
    (fun index => performPlain_keeps hI.robust index
      (fun call hkind => Move.fits_call (by rw [hkind]; rfl)) hb.collectDiagnostics)
    (fun name index attempt hname => ?_) hr
  refine Ends.of_leads fun r₁ h₁ => ?_
  exact (trigger_triggers hname attempt r₁ r₁ rfl).1.keeps (hI.robust.detached s.host)
    (fun r m hm _ hr => hI.robust r _ hr (adds_move r hm.fits))
    (fun r _ hr => hI.records r _ _ _ hr) h₁

theorem robust_looks (n : Nat) :
    Apart kept (Move.Fits .suitesRunning) fun r : Run σ β => n ≤ r.looks := by
  refine ⟨fun r r' h hadds => ?_, fun _ _ _ _ h => h⟩
  obtain ⟨new, hnew, -⟩ := hadds.moves
  unfold looks at h ⊢
  rw [hnew, List.countP_append]
  exact Nat.le_add_right_of_le h

theorem Acts.looks (h : Acts s r r') : r.looks ≤ r'.looks :=
  (robust_looks r.looks).acts s.backend.keeps_nothing h (Nat.le_refl _)

/-- Nothing need be known of the names of devices. -/
theorem named_any (s : Setup σ β) (r : Run σ β) : Named s (fun _ _ => True) r :=
  fun _ _ _ => trivial

/-! ### The phase -/

/-- All suites have been taken up, and their attempts have gone on since. -/
def Going (s : Setup σ β) (blocked : List (Nat × String)) (named : Nat → String → Prop)
    (r₀ : Run σ β) (active : List SuiteRun) (r : Run σ β) : Prop :=
  ∃ d, ReflTransGen (Taking s.plan blocked named) (r₀.desk 0 []) d ∧
    d.count = s.plan.config.selected.length ∧
    Reached s (Watching s.plan named) r₀ d s.plan.config.selected.length active r

/-- How a run is stopped while its suites run, with so many looks at them allowed. -/
inductive Stopped (s : Setup σ β) (blocked : List (Nat × String)) (named : Nat → String → Prop)
    (r₀ : Run σ β) (passes : Nat) : Stop → Run σ β → Prop where
  /-- The first attempt of a suite cannot be launched, and the active attempts are ended. -/
  | aborted {d : Desk} {name : String} {cause : LaunchError} {rows : List Cancellation}
      {r : Run σ β} (hturns : ReflTransGen (Taking s.plan blocked named) (r₀.desk 0 []) d)
      (hname : s.plan.config.selected[d.count]? = some name)
      (hfree : (blocked.find? fun e => e.1 == d.count) = none)
      (hrows : Cancelling { d with moves := d.moves ++ [.refused name 1 (.launch cause)] } rows
        (r.desk d.count [])) :
      Stopped s blocked named r₀ passes
        (.phase (.failure .suitesRunning .launch cause.message)) r
  /-- A look has seen the wish to cancel, and the active attempts are ended. -/
  | halted {active : List SuiteRun} {rows : List Cancellation} {r₁ r₂ r : Run σ β}
      (hgoing : Going s blocked named r₀ active r₁) (hlook : Looked true r₁ r₂)
      (hrows : Cancelling (r₂.desk s.plan.config.selected.length active) rows
        (r.desk s.plan.config.selected.length [])) :
      Stopped s blocked named r₀ passes
        (.phase (.failure r.machine.phase .cancelled "run cancelled")) r
  /-- A first attempt is launched, and a limit of it turns out to be no duration. -/
  | first {d : Desk} {name : String} {process : ProcessId} {cause : DurationError} {r : Run σ β}
      (hturns : ReflTransGen (Taking s.plan blocked named) (r₀.desk 0 []) d)
      (hname : s.plan.config.selected[d.count]? = some name)
      (hfree : (blocked.find? fun e => e.1 == d.count) = none) (hcause : s.Overlong cause)
      (hdesk : r.desk d.count d.active =
        { d with moves := d.moves ++ Move.overlong name 1 process cause }) :
      Stopped s blocked named r₀ passes (.broken (.duration cause)) r
  /-- So does one of a later attempt. -/
  | later {d d₁ : Desk} {active : List SuiteRun} {cause : DurationError} {r : Run σ β}
      (hturns : ReflTransGen (Taking s.plan blocked named) (r₀.desk 0 []) d)
      (hcount : d.count = s.plan.config.selected.length)
      (hwatching : ReflTransGen (Watching s.plan named) d d₁) (hcause : s.Overlong cause)
      (hdesk : Breaking s.plan cause d₁ (r.desk s.plan.config.selected.length active)) :
      Stopped s blocked named r₀ passes (.broken (.duration cause)) r
  /-- The clock ends before the next look. -/
  | unmeasured {active : List SuiteRun} {r : Run σ β} (hgoing : Going s blocked named r₀ active r)
      (hwait : s.host.Overruns s.plan.timing.pollInterval) :
      Stopped s blocked named r₀ passes (.broken (.duration .pastClock)) r
  /-- The looks allowed are used up. -/
  | unfinished {active : List SuiteRun} {r : Run σ β} (hgoing : Going s blocked named r₀ active r)
      (hlooks : passes ≤ r.looks) : Stopped s blocked named r₀ passes (.broken .unfinished) r

theorem Going.acts (h : Going s blocked named r₀ active r) : Acts s r₀ r := by
  obtain ⟨d, -, -, hreached⟩ := h
  exact hreached.acts

theorem desk_nil_runs (p : RunPlan) (r : Run σ β) : (r.desk 0 []).Runs p :=
  fun _ h => absurd h List.not_mem_nil

theorem Going.runs (h : Going s blocked named r₀ active r) : ∀ run ∈ active, run.Runs s.plan := by
  obtain ⟨d, htaking, -, hreached⟩ := h
  have hd : d.Runs s.plan := kept_along (fun _ _ => Taking.runs) htaking (desk_nil_runs s.plan r₀)
  have hruns : (r.desk s.plan.config.selected.length active).Runs s.plan :=
    kept_along (fun _ _ => Watching.runs) hreached.turns hd
  exact hruns

theorem detached_going : Detached s.host (Going s blocked named r₀ active) := by
  rintro r lab ⟨d, htaking, hcount, hreached⟩ hlab
  exact ⟨d, htaking, hcount, detached_reached r lab hreached hlab⟩

/-- The run goes on with the same attempts, or with those that have followed them. -/
theorem Going.on (h : Going s blocked named r₀ active r) {active' : List SuiteRun}
    (h' : Reached s (Watching s.plan named) r (r.desk s.plan.config.selected.length active)
      s.plan.config.selected.length active' r') : Going s blocked named r₀ active' r' := by
  obtain ⟨d, htaking, hcount, hacts, hturns⟩ := h
  exact ⟨d, htaking, hcount, hacts.trans h'.acts, hturns.trans h'.turns⟩

theorem reached_refl (s : Setup σ β) (turn : Desk → Desk → Prop) (count : Nat)
    (active : List SuiteRun) (r : Run σ β) : Reached s turn r (r.desk count active) count active r :=
  ⟨.refl, .refl⟩

/-- A look that has not begun changes nothing. -/
theorem Going.silent (h : Going s blocked named r₀ active r) (hacts : Acts s r r')
    (hsilent : Silent r r') : Going s blocked named r₀ active r' := by
  refine h.on ⟨hacts, ?_⟩
  have hdesk : r'.desk s.plan.config.selected.length active =
      r.desk s.plan.config.selected.length active := by
    rw [desk, hsilent.results, hsilent.resultLogs, Adds.moves_eq hsilent, desk]
  rw [hdesk]

theorem beat_detached {I : Run σ β → Prop} (hI : Detached s.host I) (heartbeat : Heartbeat) :
    Preserves I (beat s heartbeat) :=
  .bind (onLab_detached hI fun _ => Lab.sys_retains .now) fun _ =>
    .ite (.bind (onLab_detached hI fun _ => Lab.note_retains _ _) fun _ => .pure) .pure

/-- The looks at the active attempts are turns, until none is active or the run is stopped. -/
theorem pollUntilDone_steps (hnamed : Named s named r₀) (passes : Nat) (heartbeat : Heartbeat)
    (active : List SuiteRun) (n : Nat) :
    Ends (fun r => Going s blocked named r₀ active r ∧ n ≤ r.looks)
      (pollUntilDone s passes heartbeat active) (fun _ => Going s blocked named r₀ [])
      fun stop r => Acts s r₀ r ∧ Stopped s blocked named r₀ (n + passes) stop r := by
  fun_induction pollUntilDone s passes heartbeat active generalizing n with
  | case1 => exact .pure fun _ h => h.1
  | case2 => exact .throw fun _ h => ⟨h.1.acts, .unfinished h.1 h.2⟩
  | case3 passes heartbeat active _ ih =>
      refine .bind (Q := fun _ r => Going s blocked named r₀ active r ∧ n ≤ r.looks)
        (.modify fun r h => ?_) fun _ => ?_
      · have hwrites := writes_move (s := s) (m := .polled) trivial r
        refine ⟨h.1.on ((reached_refl s _ _ active r).turn hwrites ?_),
          Nat.le_trans h.2 hwrites.acts.looks⟩
        rw [List.append_nil, List.append_nil]
        exact .aside (m := .polled) trivial
      refine .bind (Q := fun next r => Going s blocked named r₀ next r ∧ n ≤ r.looks)
        (.adapt (.of_eq fun r h => ?_)) fun next => ?_
      · have hturns := pollEach_turns (d := r.desk s.plan.config.selected.length active)
          (hnamed.acts h.1.acts) s.plan.config.selected.length [] active [] h.1.runs
        refine hturns.conseq (fun r' heq => ?_) (fun next r' hnext => ?_) fun cause r' hbroken => ?_
        · rw [heq, List.nil_append, List.append_nil]
          exact reached_refl s _ _ active r
        · rw [List.nil_append, List.append_nil] at hnext
          exact ⟨h.1.on hnext, Nat.le_trans h.2 hnext.acts.looks⟩
        · obtain ⟨hacts, hcause, d₁, active', hwatching, hbreaking⟩ := hbroken
          obtain ⟨d, htaking, hcount, hreached⟩ := h.1
          exact ⟨hreached.acts.trans hacts,
            .later htaking hcount (hreached.turns.trans hwatching) hcause hbreaking⟩
      refine .ite (fun hempty => .pure fun r h => ?_) fun _ => ?_
      · have hnone := h.1
        rwa [List.isEmpty_iff.1 hempty] at hnone
      refine .bind (.lift (beat_detached (fun r lab h hlab =>
        ⟨detached_going r lab h.1 hlab, h.2⟩) heartbeat)) fun heartbeat => ?_
      refine .bind (Q := fun _ r => Going s blocked named r₀ next r ∧ n + 1 ≤ r.looks)
        (.of_eq fun r h => (awaitLook_looked s.plan.config.selected.length
          (fun run hrun => (h.1.runs run hrun).new) r).weaken (fun _ r' hlooked => ?_)
          fun stop r' hstop => ?_) fun _ => (ih next heartbeat (n + 1)).weaken (fun _ _ h => h)
            fun stop r' h => ?_
      · obtain ⟨hlook, hacts⟩ := hlooked
        exact ⟨h.1.on ((reached_refl s _ _ next r).looked hlook hacts),
          Nat.le_trans (Nat.succ_le_succ h.2) hlook.looks⟩
      · obtain ⟨hacts, ⟨r₁, rows, hlook, -, hrows, rfl⟩ | ⟨rfl, hwait, hsilent⟩⟩ := hstop
        · exact ⟨h.1.acts.trans hacts, .halted h.1 hlook hrows⟩
        · exact ⟨h.1.acts.trans hacts, .unmeasured (h.1.silent hacts hsilent) hwait⟩
      · rwa [Nat.add_assoc, Nat.add_comm 1 passes] at h

/-- Each suite is taken up in one turn, until a first attempt cannot be launched. -/
theorem triggerFrom_steps (hnamed : Named s named r₀) (passes index : Nat) (active : List SuiteRun)
    (names : List String) (hnames : names = s.plan.config.selected.drop index)
    (hindex : index ≤ s.plan.config.selected.length) :
    Ends (Reached s (Taking s.plan blocked named) r₀ (r₀.desk 0 []) index active)
      (triggerFrom s blocked index active names)
      (Reached s (Taking s.plan blocked named) r₀ (r₀.desk 0 []) s.plan.config.selected.length)
      fun stop r => Acts s r₀ r ∧ Stopped s blocked named r₀ passes stop r := by
  induction names generalizing index active with
  | nil =>
      have hlength : s.plan.config.selected.length = index :=
        Nat.le_antisymm (List.drop_eq_nil_iff.1 hnames.symm) hindex
      rw [hlength]
      exact .pure fun _ h => h
  | cons name rest ih =>
      obtain ⟨hname, hrest⟩ := head_of_drop hnames
      have hnext : index + 1 ≤ s.plan.config.selected.length :=
        (List.getElem?_eq_some_iff.1 hname).1
      refine .bind (Q := fun run r => run = r ∧
        Reached s (Taking s.plan blocked named) r₀ (r₀.desk 0 []) index active r)
        (.get fun r hr => ⟨rfl, hr⟩) fun run => .of_eq fun r hr => ?_
      obtain ⟨rfl, hr⟩ := hr
      dsimp only
      have hdevice : named index (run.deviceAt index) := hnamed run hr.acts index
      have hrecord : ∀ (r : Run σ β) (x : SuiteSummary),
          Writes s r { r with results := r.results ++ [x] } [x] [] [] := fun r x =>
        ⟨.single (.record _ _), rfl, (List.append_nil _).symm, (List.append_nil _).symm⟩
      split
      · next hblocked =>
          refine .bind (Q := fun _ => Reached s (Taking s.plan blocked named) r₀ (r₀.desk 0 [])
            (index + 1) active) (.modify fun r' h => ?_) fun _ => ih (index + 1) active hrest hnext
          rw [h]
          refine hr.turn (hrecord run _) ?_
          rw [List.append_nil, List.append_nil]
          exact .barred (d := run.desk index active) hname hblocked hdevice
      · next hfree =>
          refine .bind (.lift (trigger_triggers hname 1 run)) fun result => ?_
          cases result with
          | ok started =>
              refine (ih (index + 1) (active ++ [started]) hrest hnext).conseq (fun r' h => ?_)
                (fun _ _ h => h) fun _ _ h => h
              obtain ⟨_, hwrites, rfl⟩ := Triggers.writes h
              refine hr.turn hwrites ?_
              rw [List.append_nil, List.append_nil]
              exact .started (d := run.desk index active) hname hfree
                (h.1.fresh (hnamed.acts hr.acts))
          | error cause =>
              refine .of_eq fun r' h => ?_
              obtain ⟨new, hwrites, hnew⟩ := Triggers.writes h
              cases cause with
              | duration cause =>
                  obtain ⟨hcause, process, rfl⟩ := hnew
                  refine .throw fun r₁ h₁ => ?_
                  rw [h₁]
                  exact ⟨hr.acts.trans hwrites.acts, .first hr.turns hname hfree hcause
                    (hwrites.desk_moves index active)⟩
              | command cause =>
                  obtain rfl := hnew
                  refine .bind (Q := fun _ => Reached s (Taking s.plan blocked named) r₀
                    (r₀.desk 0 []) (index + 1) active) (.modify fun r₁ h₁ => ?_)
                    fun _ => ih (index + 1) active hrest hnext
                  rw [h₁]
                  refine hr.turn (hwrites.trans (hrecord r' _)) ?_
                  rw [List.append_nil, List.append_nil]
                  exact .undispatched (d := run.desk index active) hname hfree hdevice
              | launch cause =>
                  obtain rfl := hnew
                  have hruns : (run.desk index active).Runs s.plan :=
                    kept_along (fun _ _ => Taking.runs) hr.turns (desk_nil_runs s.plan r₀)
                  refine .bind (.lift (cancelRuns_cancels index
                    (fun other hother => (hruns other hother).new) r')) fun _ =>
                      .throw fun r₁ h₁ => ?_
                  obtain ⟨hacts, rows, hrows⟩ := h₁
                  rw [hwrites.desk_moves] at hrows
                  exact ⟨hr.acts.trans (hwrites.acts.trans hacts),
                    .aborted hr.turns hname hfree hrows⟩

/-- **The suites.**  However the phase ends, the run has acted only; if it ends well all suites have
been taken up and no attempt is active any more, and otherwise the run has been stopped in one of
the ways told by `Stopped`. -/
theorem runSuites_steps (hnamed : Named s named r₀) (passes : Nat) (blocked : List (Nat × String)) :
    Ends (· = r₀) (runSuites s passes blocked) (fun _ => Going s blocked named r₀ [])
      fun stop r => Acts s r₀ r ∧ Stopped s blocked named r₀ passes stop r := by
  refine .bind (Q := fun active => Going s blocked named r₀ active)
    ((triggerFrom_steps hnamed passes 0 [] _ rfl (Nat.zero_le _)).conseq
      (fun r h => ?_) (fun active r h => ?_) fun _ _ h => h) fun active => ?_
  · rw [h]
    exact reached_refl s _ 0 [] r₀
  · exact ⟨_, h.turns, rfl, h.acts, .refl⟩
  refine .bind (onLab_detached' detached_going fun _ => Lab.sys_retains .now) fun now => ?_
  refine (pollUntilDone_steps hnamed passes _ active 0).conseq
    (fun r h => ⟨h, Nat.zero_le _⟩) (fun _ _ h => h) fun stop r h => ?_
  rwa [Nat.zero_add] at h

/-- Running the suites keeps every statement that does not look at what is recorded about them. -/
theorem runSuites_keeps {I : Run σ β → Prop} (hb : s.backend.Keeps kept)
    (hI : Apart kept (Move.Fits .suitesRunning) I) (passes : Nat) (blocked : List (Nat × String)) :
    Ends I (runSuites s passes blocked) (fun _ => I) fun _ => I :=
  .of_eq fun r hr => (runSuites_steps (named_any s r) passes blocked).weaken
    (fun _ _ h => hI.acts hb h.acts hr) fun _ _ h => hI.acts hb h.1 hr

end Run

end DeviceLab
