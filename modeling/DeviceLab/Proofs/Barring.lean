import DeviceLab.Proofs.Commands
import DeviceLab.Proofs.Deliveries
import DeviceLab.Proofs.Looks
import DeviceLab.Proofs.Starting
import DeviceLab.Proofs.Summing

/-! # Suites whose devices are blocked

What could not be installed keeps the suite of the device from running, and nothing else does so in
its name: no attempt of such a suite is ever launched, and it is recorded as blocked by an
installation as soon as it is its turn.

* `Barring`: the installations of a run, and what they mean for the suites taken up so far.
* `Desk.Withheld`: the same of the suites that are being run.  It stays so in every turn, whatever
  becomes of an attempt, and `runSuites_bars` says what that comes to.
* `Outfitted`: how far a run has come with its installations and its suites.
* `startWithin_installs`: every run is in such a state at its end, however it ends. -/

namespace DeviceLab

open Relation (ReflTransGen)

/-- Recorded as blocked by an installation. -/
def SuiteSummary.Barred (x : SuiteSummary) : Prop :=
  x.status = .blocked ∧ x.failureKind = some .install

instance (x : SuiteSummary) : Decidable x.Barred := inferInstanceAs (Decidable (_ ∧ _))

/-- The move neither installs nor launches anything, nor does it enter a phase that does. -/
structure Move.Elsewhere (m : Move) : Prop where
  install : ∀ call, m = .called call → call.kind ≠ .install
  launched : ∀ name attempt process, m ≠ .launched name attempt process
  installing : m ≠ .entered .artifactInstalling
  running : m ≠ .entered .suitesRunning

theorem Move.elsewhere_of_in {m : Move} {p : Phase} (h : m.In p)
    (hinstall : p ≠ .artifactInstalling) (hsuites : p ≠ .suitesRunning) : m.Elsewhere where
  install call hcall hkind := by
    subst hcall
    rw [Move.In, Move.phase?, hkind] at h
    exact hinstall (Option.some.inj h).symm
  launched name attempt process hlaunched := by
    subst hlaunched
    exact hsuites (Option.some.inj h).symm
  installing hentered := by
    subst hentered
    cases h
  running hentered := by
    subst hentered
    cases h

theorem Move.elsewhere_looked (b : Bool) : (looked b).Elsewhere := by
  constructor <;> simp

theorem Move.elsewhere_entered {p : Phase} (hinstall : p ≠ .artifactInstalling)
    (hsuites : p ≠ .suitesRunning) : (entered p).Elsewhere where
  install := by simp
  launched := by simp
  installing h := hinstall (Move.entered.inj h)
  running h := hsuites (Move.entered.inj h)

/-- The suite is selected, and none of its places is blocked. -/
def Config.Cleared (c : Config) (blocked : List Nat) (name : String) : Prop :=
  name ∈ c.selected ∧ ∀ i, c.selected[i]? = some name → i ∉ blocked

theorem Config.Cleared.of_unblocked {c : Config} {blocked : List Nat} {index : Nat} {name : String}
    (hnodup : c.selected.Nodup) (hname : c.selected[index]? = some name) (h : index ∉ blocked) :
    c.Cleared blocked name := by
  refine ⟨List.mem_of_getElem? hname, fun i hi => ?_⟩
  obtain ⟨hlt, -⟩ := List.getElem?_eq_some_iff.1 hi
  rwa [(List.getElem?_inj hlt hnodup).1 (hi.trans hname.symm)]

/-- The move is no installation, and no launch but one of a suite that may run. -/
def Move.Harmless (c : Config) (blocked : List Nat) (m : Move) : Prop :=
  (∀ call, m = .called call → call.kind ≠ .install) ∧
    ∀ name attempt process, m = .launched name attempt process → c.Cleared blocked name

theorem Move.Elsewhere.harmless {c : Config} {blocked : List Nat} {m : Move} (h : m.Elsewhere) :
    m.Harmless c blocked :=
  ⟨h.install, fun name attempt process hm => absurd hm (h.launched name attempt process)⟩

namespace Run

variable {σ β κ : Type} {kept : Device → κ} {s : Setup σ β} {c : Config} {r r' : Run σ β}
  {blocked : List Nat} {outcome : PhaseOutcome} {count : Nat}

/-- What the installations of a run mean for its suites, of which the first ones have been taken
up. -/
structure Barring (c : Config) (blocked : List Nat) (outcome : PhaseOutcome) (count : Nat)
    (r : Run σ β) : Prop where
  served : Served c r.calls blocked outcome
  phases : ∃ startup rest, r.phases = startup :: outcome :: rest
  launched : ∀ i name, c.selected[i]? = some name → i ∈ blocked →
    ∀ attempt process, .launched name attempt process ∉ r.moves.toList
  records : ∀ x ∈ r.results, x.suite ∈ c.selected ∧
    ∀ i, c.selected[i]? = some x.suite → (x.Barred ↔ i ∈ blocked)
  reached : ∀ i < count, ∀ name, c.selected[i]? = some name → i ∈ blocked →
    ∃ x ∈ r.results, x.suite = name

/-- So many suites have been taken up: all of them, or those before the first one of which no
attempt could be launched for another reason than its command. -/
inductive TakenUp (c : Config) (blocked : List Nat) (r : Run σ β) : Nat → Prop where
  | all : TakenUp c blocked r c.selected.length
  | upTo {count : Nat} {name : String} {cause : TriggerError}
      (place : c.selected[count]? = some name) (unblocked : count ∉ blocked)
      (refused : .refused name 1 cause ∈ r.moves.toList) (other : ∀ e, cause ≠ .command e) :
      TakenUp c blocked r count

/-- No suite has been begun. -/
structure Unstarted (r : Run σ β) : Prop where
  launched : ∀ name attempt process, .launched name attempt process ∉ r.moves.toList
  running : .entered .suitesRunning ∉ r.moves.toList
  results : r.results = []

/-- How far a run has come with its installations and its suites. -/
inductive Outfitted (c : Config) (r : Run σ β) : Prop where
  /-- It has not come to the installations. -/
  | before (moves : ∀ m ∈ r.moves.toList, m.Elsewhere) (results : r.results = [])
  /-- It has not come to the suites. -/
  | installed {blocked : List Nat} {outcome : PhaseOutcome}
      (barring : Barring c blocked outcome 0 r) (unstarted : Unstarted r)
  | suites {blocked : List Nat} {outcome : PhaseOutcome} {count : Nat}
      (barring : Barring c blocked outcome count r) (takenUp : TakenUp c blocked r count)

/-! ### Which steps they survive -/

theorem Served.congr {calls calls' : List BackendCall} (h : Served c calls blocked outcome)
    (hcalls : ∀ i, installsOn i calls' = installsOn i calls) : Served c calls' blocked outcome where
  delivery := by simpa only [hcalls] using h.delivery
  blocked := by simpa only [hcalls] using h.blocked
  phase := h.phase
  fatal := by simpa only [hcalls] using h.fatal
  warning := by simpa only [hcalls] using h.warning
  success := by simpa only [hcalls] using h.success

theorem Barring.robust : Robust kept (Move.Harmless c blocked)
    (Barring c blocked outcome count : Run σ β → Prop) := by
  intro r r' h hadds
  obtain ⟨new, hnew, hharmless⟩ := hadds.calls
  refine ⟨h.served.congr fun i => ?_, by rw [hadds.phases]; exact h.phases,
    fun i name hi hblocked attempt process hm => ?_, by rw [hadds.results]; exact h.records,
    by rw [hadds.results]; exact h.reached⟩
  · have hnone : installsOn i new = [] :=
      installsOn_others fun call hcall hplace => (hharmless call hcall).1 call rfl hplace.1
    rw [hnew, installsOn_append, hnone, List.append_nil]
  · obtain ⟨moves, hmoves, hall⟩ := hadds.moves
    rw [hmoves] at hm
    rcases List.mem_append.1 hm with hm | hm
    · exact h.launched i name hi hblocked attempt process hm
    · exact ((hall _ hm).2 name attempt process rfl).2 i hi hblocked

theorem TakenUp.robust {p : Move → Prop} :
    Robust kept p fun r : Run σ β => TakenUp c blocked r count := by
  intro r r' h hadds
  obtain ⟨new, hnew, -⟩ := hadds.moves
  cases h with
  | all => exact .all
  | upTo place unblocked refused other =>
      refine .upTo place unblocked ?_ other
      rw [hnew]
      exact List.mem_append_left _ refused

theorem Unstarted.robust {p : Move → Prop} (hlaunched : ∀ name attempt process,
      ¬p (.launched name attempt process)) (hrunning : ¬p (.entered .suitesRunning)) :
    Robust kept p (Unstarted : Run σ β → Prop) := by
  intro r r' h hadds
  obtain ⟨new, hnew, hp⟩ := hadds.moves
  refine ⟨fun name attempt process hm => ?_, fun hm => ?_, hadds.results.trans h.results⟩
  · rw [hnew] at hm
    exact (List.mem_append.1 hm).elim (h.launched name attempt process)
      fun hm => hlaunched name attempt process (hp _ hm)
  · rw [hnew] at hm
    exact (List.mem_append.1 hm).elim h.running fun hm => hrunning (hp _ hm)

theorem Outfitted.robust : Robust kept Move.Elsewhere (Outfitted c : Run σ β → Prop) := by
  intro r r' h hadds
  obtain ⟨new, hnew, helse⟩ := hadds.moves
  have hbars : ∀ {blocked outcome count}, Barring c blocked outcome count r →
      Barring c blocked outcome count r' := fun hbarring =>
    Barring.robust r r' hbarring (hadds.mono fun _ hm => hm.harmless)
  cases h with
  | before moves results =>
      refine .before (fun m hm => ?_) (hadds.results.trans results)
      rw [hnew] at hm
      exact (List.mem_append.1 hm).elim (moves m) (helse m)
  | installed barring unstarted =>
      refine .installed (hbars barring) (Unstarted.robust (fun _ _ _ hm => ?_) (fun hm => ?_) r r'
        unstarted hadds)
      · exact hm.launched _ _ _ rfl
      · exact hm.running rfl
  | suites barring takenUp => exact .suites (hbars barring) (TakenUp.robust r r' takenUp hadds)

/-- Neither the phase nor its outcome matters. -/
theorem Barring.congr (h : Barring c blocked outcome count r) (hmoves : r'.moves = r.moves)
    (hresults : r'.results = r.results) (hphases : ∃ more, r'.phases = r.phases ++ more) :
    Barring c blocked outcome count r' := by
  obtain ⟨startup, rest, hrow⟩ := h.phases
  obtain ⟨more, hmore⟩ := hphases
  refine ⟨?_, ⟨startup, rest ++ more, ?_⟩, ?_, ?_, ?_⟩
  · rw [Run.calls, hmoves]
    exact h.served
  · rw [hmore, hrow]
    rfl
  · rw [hmoves]
    exact h.launched
  · rw [hresults]
    exact h.records
  · rw [hresults]
    exact h.reached

theorem Outfitted.congr (h : Outfitted c r) (hmoves : r'.moves = r.moves)
    (hresults : r'.results = r.results) (hphases : ∃ more, r'.phases = r.phases ++ more) :
    Outfitted c r' := by
  cases h with
  | before moves results => exact .before (hmoves ▸ moves) (hresults.trans results)
  | installed barring unstarted =>
      exact .installed (barring.congr hmoves hresults hphases) ⟨hmoves ▸ unstarted.launched,
        hmoves ▸ unstarted.running, hresults.trans unstarted.results⟩
  | suites barring takenUp =>
      refine .suites (barring.congr hmoves hresults hphases) ?_
      cases takenUp with
      | all => exact .all
      | upTo place unblocked refused other => exact .upTo place unblocked (hmoves ▸ refused) other

/-! ### Taking up the suites -/

/-- The packages have been installed. -/
structure Provided (c : Config) (blocked : List Nat) (outcome : PhaseOutcome) (r : Run σ β) :
    Prop where
  served : Served c r.calls blocked outcome
  phases : ∃ startup rest, r.phases = startup :: outcome :: rest

theorem Provided.apart : Apart kept (Move.Fits .suitesRunning)
    (Provided c blocked outcome : Run σ β → Prop) := by
  refine ⟨fun r r' h hadds => ?_, fun _ _ _ _ h => ⟨h.served, h.phases⟩⟩
  obtain ⟨new, hnew, hfits⟩ := hadds.calls
  refine ⟨h.served.congr fun i => ?_, by rw [hadds.phases]; exact h.phases⟩
  have hnone : installsOn i new = [] := installsOn_others fun call hcall hplace => by
    have hphase := hfits call hcall _ rfl
    rw [hplace.1] at hphase
    cases hphase
  rw [hnew, installsOn_append, hnone, List.append_nil]

end Run

/-- At a desk, the suites whose devices are blocked are not begun, and those of them that have been
taken up are recorded. -/
structure Desk.Withheld (c : Config) (blocked : List Nat) (d : Desk) : Prop where
  launched : ∀ i name, c.selected[i]? = some name → i ∈ blocked →
    ∀ attempt process, .launched name attempt process ∉ d.moves
  active : ∀ run ∈ d.active, c.Cleared blocked run.suite
  records : ∀ x ∈ d.results, x.suite ∈ c.selected ∧
    ∀ i, c.selected[i]? = some x.suite → (x.Barred ↔ i ∈ blocked)
  reached : ∀ i < d.count, ∀ name, c.selected[i]? = some name → i ∈ blocked →
    ∃ x ∈ d.results, x.suite = name

section Desk

variable {c : Config} {p : RunPlan} {blocked : List Nat} {entries : List (Nat × String)}
  {named : Nat → String → Prop} {d d' : Desk} {name : String} {run : SuiteRun} {new : List Move}

/-- Moves are made that launch suites at most that may run. -/
theorem Desk.Withheld.moved (h : d.Withheld c blocked) (new : List Move)
    (hnew : ∀ m ∈ new, ∀ name, m.suite? = some name → c.Cleared blocked name) :
    ({ d with moves := d.moves ++ new } : Desk).Withheld c blocked where
  launched i name hi hblocked attempt process hm := by
    rcases List.mem_append.1 hm with hm | hm
    · exact h.launched i name hi hblocked attempt process hm
    · exact (hnew _ hm name rfl).2 i hi hblocked
  active := h.active
  records := h.records
  reached := h.reached

/-- A suite that was never launched is recorded; why, that depends on whether its device is
blocked. -/
theorem Desk.Withheld.recorded (h : d.Withheld c blocked) (hnodup : c.selected.Nodup)
    {x : SuiteSummary} (hplace : c.selected[d.count]? = some x.suite)
    (hbarred : x.Barred ↔ d.count ∈ blocked) :
    ({ d with count := d.count + 1, results := d.results ++ [x] } : Desk).Withheld c blocked where
  launched := h.launched
  active := h.active
  records y hy := by
    rcases List.mem_append.1 hy with hy | hy
    · exact h.records y hy
    · rw [List.mem_singleton.1 hy]
      refine ⟨List.mem_of_getElem? hplace, fun i hi => ?_⟩
      obtain ⟨hlt, -⟩ := List.getElem?_eq_some_iff.1 hi
      rw [(List.getElem?_inj hlt hnodup).1 (hi.trans hplace.symm)]
      exact hbarred
  reached i hi name hname hblocked := by
    rcases Nat.lt_succ_iff_lt_or_eq.1 hi with hi | rfl
    · obtain ⟨y, hy, hsuite⟩ := h.reached i hi name hname hblocked
      exact ⟨y, List.mem_append_left _ hy, hsuite⟩
    · rw [hplace, Option.some.injEq] at hname
      exact ⟨x, List.mem_append_right _ (List.mem_singleton.2 rfl), hname⟩

/-- A suite whose device is not blocked is launched. -/
theorem Desk.Withheld.started (h : d.Withheld c blocked) (hclear : c.Cleared blocked run.suite)
    (hfree : d.count ∉ blocked) :
    ({ d with
      count := d.count + 1
      active := d.active ++ [run]
      moves := d.moves ++ [Move.launched run.suite 1 run.process] } : Desk).Withheld c blocked := by
  have hmoved := h.moved [Move.launched run.suite 1 run.process]
    (List.forall_mem_singleton.2 (by rintro _ ⟨⟩; exact hclear))
  refine ⟨hmoved.launched, List.forall_mem_append.2 ⟨h.active, List.forall_mem_singleton.2 hclear⟩,
    h.records, fun i hi name hname hblocked => ?_⟩
  rcases Nat.lt_succ_iff_lt_or_eq.1 hi with hi | rfl
  · exact h.reached i hi name hname hblocked
  · exact absurd hblocked hfree

theorem find?_index {entries : List (Nat × String)} {index : Nat} :
    (entries.find? fun entry => entry.1 == index) = none ↔ index ∉ entries.map Prod.fst := by
  simp only [List.find?_eq_none, List.mem_map, not_exists, not_and, beq_iff_eq]

theorem Taking.withheld (h : Taking p entries named d d') (hnodup : p.config.selected.Nodup)
    (hd : d.Withheld p.config (entries.map Prod.fst)) :
    d'.Withheld p.config (entries.map Prod.fst) := by
  cases h with
  | @barred name device entry hname hentry hdevice =>
      refine hd.recorded hnodup hname (iff_of_true ⟨rfl, rfl⟩ (Decidable.not_not.1 fun hnot => ?_))
      rw [find?_index.2 hnot] at hentry
      cases hentry
  | @undispatched name device cause hname hfree hdevice =>
      have hmoved := hd.moved [Move.refused name 1 (.command cause)]
        (List.forall_mem_singleton.2 (by simp [Move.suite?]))
      refine hmoved.recorded hnodup hname (iff_of_false (fun h => ?_) (find?_index.1 hfree))
      cases h.2
  | @started name run hname hfree hrun =>
      obtain ⟨rfl, -⟩ := hrun
      have hunblocked := find?_index.1 hfree
      exact hd.started (.of_unblocked hnodup hname hunblocked) hunblocked

/-- What is done with an active suite changes nothing for the others. -/
theorem Desk.Withheld.finish {before after : List SuiteRun} {next : Option SuiteRun}
    {record : Option SuiteSummary} (h : d.Withheld c blocked)
    (hactive : d.active = before ++ run :: after) (hconcerns : Concerns run next new record)
    (process : ProcessId) : (d.finish before after process next new record).Withheld c blocked := by
  have hclear := h.active run (mem_active hactive)
  have hrest := h.active
  rw [hactive, List.forall_mem_append, List.forall_mem_cons] at hrest
  have hmoved := h.moved new fun m hm name hname => hconcerns.moves m hm name hname ▸ hclear
  refine ⟨hmoved.launched, ?_, ?_, fun i hi name hname hblocked => ?_⟩
  · refine List.forall_mem_append.2 ⟨hrest.1, List.forall_mem_append.2 ⟨fun again hagain => ?_,
      hrest.2.2⟩⟩
    rw [hconcerns.next again (Option.mem_toList.1 hagain)]
    exact hclear
  · refine List.forall_mem_append.2 ⟨h.records, fun x hx => ?_⟩
    have hstatus := hconcerns.status x (Option.mem_toList.1 hx)
    rw [hconcerns.record x (Option.mem_toList.1 hx)]
    exact ⟨hclear.1, fun i hi => iff_of_false (fun hbarred => hstatus hbarred.1) (hclear.2 i hi)⟩
  · obtain ⟨x, hx, hsuite⟩ := h.reached i hi name hname hblocked
    exact ⟨x, List.mem_append_left _ hx, hsuite⟩

theorem Watching.withheld (h : Watching p named d d') (hruns : d.Runs p)
    (hd : d.Withheld c blocked) : d'.Withheld c blocked := by
  obtain ⟨m, hm, rfl⟩ | ⟨_, run, _, _, _, _, hactive, hconcerns, rfl⟩ := h.concerns hruns
  · refine hd.moved _ (List.forall_mem_singleton.2 fun name hname => ?_)
    cases m with
    | looked | polled | called => cases hname
    | _ => exact hm.elim
  · exact hd.finish hactive hconcerns _

theorem Cancelling.withheld {rows : List Cancellation} (h : Cancelling d rows d')
    (hd : d.Withheld c blocked) : d'.Withheld c blocked := by
  induction h with
  | none => exact hd
  | @next d d' row rows rest hactive _ ih =>
      have hfirst : d.active = [] ++ row.run :: rest := hactive
      exact ih (hd.finish hfirst (concerns_cutOff rfl rfl SuiteStatus.noConfusion) _)

theorem Breaking.withheld {cause : DurationError} (h : Breaking p cause d d') (hruns : d.Runs p)
    (hd : d.Withheld c blocked) : d'.Withheld c blocked := by
  cases h with
  | @next before after run exited outcome judgement output calls process hactive hexited hcalls =>
      have hrun := hruns _ (mem_active hactive)
      have hclear := hd.active run (mem_active hactive)
      rw [← congrArg SuiteRun.suite (hexited.same hrun.new)] at hclear
      refine hd.moved _ (List.forall_mem_cons.2 ⟨by rintro _ ⟨⟩; exact hclear,
        List.forall_mem_append.2 ⟨fun m hm name hname => ?_, ?_⟩⟩)
      · obtain ⟨call, rfl, -⟩ := hcalls m hm
        cases hname
      · simp only [Move.overlong, List.forall_mem_cons]
        exact ⟨by rintro _ ⟨⟩; exact hclear, by simp [Move.suite?]⟩

end Desk

namespace Run

variable {σ β κ : Type} {kept : Device → κ} {s : Setup σ β} {c : Config} {r r' r₀ : Run σ β}
  {blocked : List Nat} {entries : List (Nat × String)} {named : Nat → String → Prop}
  {outcome : PhaseOutcome} {count passes : Nat} {active : List SuiteRun} {d : Desk}

theorem Barring.withheld (h : Barring c blocked outcome 0 r) : (r.desk 0 []).Withheld c blocked :=
  ⟨h.launched, fun _ hrun => absurd hrun List.not_mem_nil, h.records, h.reached⟩

theorem Provided.barring (h : Provided c blocked outcome r)
    (hdesk : (r.desk count active).Withheld c blocked) : Barring c blocked outcome count r :=
  ⟨h.served, h.phases, hdesk.launched, hdesk.records, hdesk.reached⟩

section Phase

variable (hnodup : s.plan.config.selected.Nodup)
  (hd : (r₀.desk 0 []).Withheld s.plan.config (entries.map Prod.fst))

include hnodup hd

theorem Withheld.taking (h : ReflTransGen (Taking s.plan entries named) (r₀.desk 0 []) d) :
    d.Runs s.plan ∧ d.Withheld s.plan.config (entries.map Prod.fst) :=
  kept_along (P := fun d => d.Runs s.plan ∧ d.Withheld s.plan.config (entries.map Prod.fst))
    (fun _ _ hturn h => ⟨hturn.runs h.1, hturn.withheld hnodup h.2⟩) h ⟨desk_nil_runs s.plan r₀, hd⟩

omit hnodup hd in
theorem Withheld.watching {d' : Desk} (hd : d.Runs s.plan ∧ d.Withheld c blocked)
    (h : ReflTransGen (Watching s.plan named) d d') : d'.Runs s.plan ∧ d'.Withheld c blocked :=
  kept_along (P := fun d => d.Runs s.plan ∧ d.Withheld c blocked)
    (fun _ _ hturn h => ⟨hturn.runs h.1, hturn.withheld h.1 h.2⟩) h hd

theorem Going.withheld (h : Going s entries named r₀ active r) :
    (r.desk s.plan.config.selected.length active).Withheld s.plan.config (entries.map Prod.fst) := by
  obtain ⟨d, htaking, -, hreached⟩ := h
  exact (Withheld.watching (Withheld.taking hnodup hd htaking) hreached.turns).2

/-- However the suites are stopped, so many have been taken up. -/
theorem Stopped.takenUp {stop : Stop} (h : Stopped s entries named r₀ passes stop r) :
    ∃ count active, (r.desk count active).Withheld s.plan.config (entries.map Prod.fst) ∧
      TakenUp s.plan.config (entries.map Prod.fst) r count := by
  cases h with
  | @aborted d name cause rows r hturns hname hfree hrows =>
      have hrefused := (Withheld.taking hnodup hd hturns).2.moved
        [Move.refused name 1 (.launch cause)]
        (List.forall_mem_singleton.2 (by simp [Move.suite?]))
      obtain ⟨-, -, hmoves⟩ := Cancelling.written hrows
      have hwritten : .refused name 1 (.launch cause) ∈ r.moves.toList := by
        rw [hmoves]
        simp
      exact ⟨_, _, hrows.withheld hrefused, .upTo hname (find?_index.1 hfree) hwritten (by simp)⟩
  | @halted active rows r₁ r₂ r hgoing hlook hrows =>
      have hlooked : (r₂.desk s.plan.config.selected.length active).Withheld s.plan.config
          (entries.map Prod.fst) := by
        obtain ⟨new, hnew, hlooks⟩ := hlook.adds.moves
        rw [desk, hlook.adds.results, hlook.adds.resultLogs, hnew]
        refine (hgoing.withheld hnodup hd).moved new fun m hm name hname => ?_
        obtain ⟨b, rfl⟩ := hlooks m hm
        cases hname
      exact ⟨_, _, hrows.withheld hlooked, .all⟩
  | @first d name process cause r hturns hname hfree hcause hdesk =>
      have hunblocked := find?_index.1 hfree
      have hclear : s.plan.config.Cleared (entries.map Prod.fst) name :=
        .of_unblocked hnodup hname hunblocked
      have hwritten : .refused name 1 (.duration cause) ∈ r.moves.toList := by
        have hmoves : r.moves.toList = d.moves ++ Move.overlong name 1 process cause :=
          congrArg Desk.moves hdesk
        rw [hmoves]
        simp [Move.overlong]
      refine ⟨d.count, d.active, ?_, .upTo hname hunblocked hwritten (by simp)⟩
      rw [hdesk]
      refine (Withheld.taking hnodup hd hturns).2.moved _ ?_
      simp only [Move.overlong, List.forall_mem_cons]
      exact ⟨by rintro _ ⟨⟩; exact hclear, by simp [Move.suite?]⟩
  | later hturns hcount hwatching hcause hdesk =>
      obtain ⟨hruns, hwithheld⟩ := Withheld.watching (Withheld.taking hnodup hd hturns) hwatching
      exact ⟨_, _, hdesk.withheld hruns hwithheld, .all⟩
  | unmeasured hgoing => exact ⟨_, _, hgoing.withheld hnodup hd, .all⟩
  | unfinished hgoing => exact ⟨_, _, hgoing.withheld hnodup hd, .all⟩

end Phase

/-- However the suites end, those of blocked devices are not run. -/
theorem runSuites_bars (hnodup : s.plan.config.selected.Nodup) (entries : List (Nat × String))
    (passes : Nat) :
    Ends (Barring s.plan.config (entries.map Prod.fst) outcome 0) (runSuites s passes entries)
      (fun _ => Outfitted s.plan.config) fun _ => Outfitted s.plan.config := by
  refine .of_eq fun r hr => ?_
  have hprovided : ∀ {r'}, Acts s r r' →
      Provided s.plan.config (entries.map Prod.fst) outcome r' := fun hacts =>
    Provided.apart.acts s.backend.keeps_nothing hacts ⟨hr.served, hr.phases⟩
  refine (runSuites_steps (named_any s r) passes entries).weaken (fun _ r' h => ?_)
    fun stop r' h => ?_
  · exact .suites ((hprovided h.acts).barring (h.withheld hnodup hr.withheld)) .all
  · obtain ⟨count, active, hwithheld, htaken⟩ := h.2.takenUp hnodup hr.withheld
    exact .suites ((hprovided h.1).barring hwithheld) htaken

/-! ### Up to the suites -/

/-- The run has not come to the installations; `Q` is about the number of its devices and the
outcomes of its phases. -/
structure Prepared (Q : Nat → List PhaseOutcome → Prop) (r : Run σ β) : Prop where
  moves : ∀ m ∈ r.moves.toList, m.Elsewhere
  results : r.results = []
  equipment : Q r.devices.length r.phases

variable {Q : Nat → List PhaseOutcome → Prop}

theorem Prepared.robust : Robust kept Move.Elsewhere (Prepared Q : Run σ β → Prop) := by
  intro r r' h hadds
  obtain ⟨new, hnew, helse⟩ := hadds.moves
  refine ⟨fun m hm => ?_, hadds.results.trans h.results, ?_⟩
  · rw [hnew] at hm
    exact (List.mem_append.1 hm).elim (h.moves m) (helse m)
  · rw [hadds.length_devices, hadds.phases]
    exact h.equipment

theorem Prepared.robust_phase {p : Phase} (hinstall : p ≠ .artifactInstalling)
    (hsuites : p ≠ .suitesRunning) : Robust kept (Move.In p) (Prepared Q : Run σ β → Prop) :=
  Prepared.robust.mono fun _ hm => Move.elsewhere_of_in hm hinstall hsuites

theorem Prepared.outfitted (h : Prepared Q r) : Outfitted c r := .before h.moves h.results

theorem Prepared.looked {cancelled : Bool} (h : Prepared Q r) (hlook : Looked cancelled r r') :
    Prepared Q r' := by
  refine Prepared.robust r r' h (hlook.adds.mono fun m hm => ?_)
  obtain ⟨b, rfl⟩ := hm
  exact Move.elsewhere_looked b

/-- A phase is entered after a look, or the run stops after it. -/
theorem enter_leads {I I' : Run σ β → Prop} {p : Move → Prop} {target : Phase}
    (hI : Robust id p I) (hlooked : ∀ b, p (.looked b))
    (hentered : ∀ r l, I r → I' { r with machine := l, moves := r.moves.push (.entered target) }) :
    Ends I (enter s target) (fun _ => I') fun _ => I := by
  have hlook : ∀ (r r' : Run σ β) (b : Bool), I r → Looked b r r' → I r' := by
    refine fun r r' b hr h => hI r r' hr (h.adds.mono fun m hm => ?_)
    obtain ⟨cancelled, rfl⟩ := hm
    exact hlooked cancelled
  refine .of_eq fun r hr => (enter_looked target r).weaken (fun _ r' h => ?_) fun stop r' h => ?_
  · obtain ⟨r₁, l, hlooked, rfl⟩ := h
    exact hentered r₁ l (hlook r r₁ false hr hlooked)
  · obtain ⟨-, b, hlooked, -⟩ := h
    exact hlook r r' b hr hlooked

theorem enter_prepared {target : Phase} (hinstall : target ≠ .artifactInstalling)
    (hsuites : target ≠ .suitesRunning) :
    Ends (Prepared Q) (enter s target) (fun _ => Prepared Q) fun _ => Outfitted c := by
  have hrobust : Robust id Move.Elsewhere (Prepared Q : Run σ β → Prop) := Prepared.robust
  refine (enter_leads hrobust Move.elsewhere_looked fun r l h => ?_).weaken (fun _ _ h => h)
    fun _ _ h => h.outfitted
  have hentered := hrobust r _ h (adds_move r (Move.elsewhere_entered hinstall hsuites))
  exact ⟨hentered.moves, hentered.results, hentered.equipment⟩

/-- If all devices are acquired there is one for each selected suite. -/
theorem acquireDevices_prepared (hv : s.plan.config.validate = .ok ()) :
    Ends (Prepared fun devices phases => devices = 0 ∧ phases = []) (acquireDevices s)
      (fun _ => Prepared fun devices phases =>
        devices = s.plan.config.selected.length ∧ phases = [])
      fun _ => Outfitted c := by
  have hcall : ∀ (r : Run σ β) (lab : Lab σ) (memory : β) (call : BackendCall),
      Prepared (fun _ phases => phases = []) r → call.kind = .acquire → Prepared (fun _ phases =>
        phases = []) { r with lab, memory, moves := r.moves.push (.called call) } := by
    intro r lab memory call h hkind
    have hrobust : Robust id (Move.In .acquiringDevices)
        (Prepared (fun _ phases => phases = []) : Run σ β → Prop) :=
      Prepared.robust_phase (by decide) (by decide)
    have hcalled := hrobust r _ h (adds_move r (Move.in_call (by rw [hkind]; rfl)))
    exact ⟨hcalled.moves, hcalled.results, hcalled.equipment⟩
  refine .of_eq fun r hr => ((acquireDevices_makes r (List.eq_nil_of_length_eq_zero
    hr.equipment.1)).and (acquireDevices_keeps hcall fun r d h => ⟨h.moves, h.results,
      h.equipment⟩)).conseq (fun r' h => ⟨h, ?_⟩) (fun _ r' h => ?_) fun stop r' h => ?_
  · subst h
    exact ⟨hr.moves, hr.results, hr.equipment.2⟩
  · have hlength := h.1.1.trans (Config.length_boundDevices hv)
    exact ⟨h.2.moves, h.2.results, hlength, h.2.equipment⟩
  · exact h.2.2.outfitted

/-- Starting the devices has one outcome. -/
theorem startDevices_prepared {count : Nat} :
    Ends (Prepared fun devices phases => devices = count ∧ phases = []) (startDevices s)
      (fun _ => Prepared fun devices phases =>
        devices = count ∧ ∃ startup, phases = [startup])
      fun _ => Outfitted c := by
  have hb := s.backend.keeps_nothing
  have hlooks := startDevices_looks (s := s) hb (Prepared.robust_phase (by decide) (by decide))
    (fun r r' (h : Prepared (fun devices _ => devices = count) r) hlook => h.looked hlook)
    fun r o h => ⟨h.moves, h.results, h.equipment⟩
  have hphases := startDevices_spec (s := s)
    (J := fun r : Run σ β => ∃ startup, r.phases = [startup]) hb
    (fun r r' (h : r.phases = []) hadds => hadds.phases.trans h)
    fun r words h => ⟨_, congrArg (· ++ _) h⟩
  refine (hlooks.and hphases).conseq (fun r h => ?_) (fun _ r h => ?_) fun stop r h => ?_
  · exact ⟨⟨h.moves, h.results, h.equipment.1⟩, h.equipment.2⟩
  · exact ⟨h.1.moves, h.1.results, h.1.equipment, h.2⟩
  · rcases h.1.2 with hprepared | ⟨-, r₀, hprepared, hlook⟩
    · exact hprepared.outfitted
    · exact (hprepared.looked hlook).outfitted

/-- The run is about to install; there is a device for each selected suite. -/
structure Installing (c : Config) (r : Run σ β) : Prop where
  calls : ∀ call ∈ r.calls, call.kind ≠ .install
  unstarted : Unstarted r
  devices : r.devices.length = c.selected.length
  phases : ∃ startup, r.phases = [startup]

/-- The installations are begun. -/
theorem enter_installing :
    Ends (Prepared fun devices phases =>
        devices = s.plan.config.selected.length ∧ ∃ startup, phases = [startup])
      (enter s .artifactInstalling) (fun _ => Installing s.plan.config)
      fun _ => Outfitted c := by
  refine (enter_leads Prepared.robust Move.elsewhere_looked fun r l h => ?_).weaken
    (fun _ _ h => h) fun _ _ h => h.outfitted
  have hmoves : ∀ m ∈ (r.moves.push (.entered .artifactInstalling)).toList,
      m = .entered .artifactInstalling ∨ m.Elsewhere := by
    intro m hm
    rw [Array.toList_push] at hm
    rcases List.mem_append.1 hm with hm | hm
    · exact .inr (h.moves m hm)
    · exact .inl (List.mem_singleton.1 hm)
  refine ⟨fun call hcall => ?_, ⟨fun name attempt process hm => ?_, fun hm => ?_, h.results⟩,
    h.equipment.1, h.equipment.2⟩
  · obtain ⟨m, hm, hmove⟩ := List.mem_filterMap.1 hcall
    rcases hmoves m hm with rfl | helse
    · cases hmove
    · cases m with
      | called call' =>
          cases hmove
          exact helse.install call rfl
      | _ => cases hmove
  · rcases hmoves _ hm with heq | helse
    · cases heq
    · exact helse.launched name attempt process rfl
  · rcases hmoves _ hm with heq | helse
    · cases heq
    · exact helse.running rfl

/-- After the installations it is settled which suites are not to run. -/
theorem installArtifacts_outfits :
    Leads (Installing s.plan.config) (installArtifacts s) fun entries r =>
      ∃ outcome, Barring s.plan.config (entries.map Prod.fst) outcome 0 r ∧ Unstarted r := by
  have hunstarted : Robust (fun _ => ()) (Move.In .artifactInstalling)
      (Unstarted : Run σ β → Prop) := by
    refine Unstarted.robust (fun _ _ _ h => ?_) fun h => ?_
    · cases h
    · cases h
  refine .of_eq fun r hr => ((installArtifacts_serves r (Nat.le_of_eq hr.devices.symm)).and
    (installArtifacts_keeps s.backend.keeps_nothing hunstarted fun _ _ h => ⟨h.launched, h.running,
      h.results⟩)).conseq (fun r' h => ⟨h, h ▸ hr.unstarted⟩) fun entries r' h => ?_
  obtain ⟨⟨calls, outcome, hserved, hcalls, hrow⟩, hquiet⟩ := h
  obtain ⟨startup, hphases⟩ := hr.phases
  refine ⟨outcome, ⟨hserved.congr fun i => ?_, ⟨startup, [], by rw [hrow, hphases]; rfl⟩,
    fun _ _ _ _ attempt process => hquiet.launched _ attempt process, fun x hx => ?_,
    fun i hi => absurd hi (Nat.not_lt_zero i)⟩, hquiet⟩
  · have hnone : installsOn i r.calls = [] :=
      installsOn_others fun call hcall hplace => hr.calls call hcall hplace.1
    rw [hcalls, installsOn_append, hnone, List.nil_append]
  · rw [hquiet.results] at hx
    exact absurd hx List.not_mem_nil

/-- The suites are begun. -/
theorem enter_running :
    Ends (fun r => Barring c blocked outcome 0 r ∧ Unstarted r) (enter s .suitesRunning)
      (fun _ => Barring c blocked outcome 0) fun _ => Outfitted c := by
  have hrobust : Robust id (fun m => ∃ b, m = .looked b)
      fun r : Run σ β => Barring c blocked outcome 0 r ∧ Unstarted r := by
    refine .and (Barring.robust.mono fun m hm => ?_) (Unstarted.robust (fun _ _ _ h => ?_)
      fun h => ?_)
    · obtain ⟨b, rfl⟩ := hm
      exact (Move.elsewhere_looked b).harmless
    · obtain ⟨b, h⟩ := h
      cases h
    · obtain ⟨b, h⟩ := h
      cases h
  refine (enter_leads hrobust (fun b => ⟨b, rfl⟩) fun r l h => ?_).weaken (fun _ _ h => h)
    fun _ r h => .installed h.1 h.2
  have hadds : Adds id (Move.Harmless c blocked) r
      { r with moves := r.moves.push (.entered .suitesRunning) } := adds_move r (by simp [Move.Harmless])
  exact (Barring.robust r _ h.1 hadds).congr rfl rfl ⟨[], (List.append_nil _).symm⟩

/-- A run comes to its suites with its packages installed, or it stops before. -/
theorem untilSuites_outfits (hv : s.plan.config.validate = .ok ()) :
    Ends (Prepared fun devices phases => devices = 0 ∧ phases = []) (untilSuites s)
      (fun entries r => ∃ outcome, Barring s.plan.config (entries.map Prod.fst) outcome 0 r)
      fun _ => Outfitted s.plan.config := by
  refine .bind (enter_prepared (by decide) (by decide)) fun _ =>
    .bind (acquireDevices_prepared hv) fun _ => ?_
  refine .bind (enter_prepared (by decide) (by decide)) fun _ =>
    .bind startDevices_prepared fun _ => ?_
  refine .bind (enter_prepared (by decide) (by decide)) fun _ => .bind (.lift
    (startLogCapture_keeps s.backend.keeps_nothing (Prepared.robust_phase (by decide) (by decide))))
    fun _ => ?_
  refine .bind enter_installing fun _ => .bind (.lift installArtifacts_outfits) fun entries => ?_
  refine .of_eq fun r hr => ?_
  obtain ⟨outcome, hr⟩ := hr
  refine .bind (enter_running.conseq (fun r' h => h ▸ hr) (fun _ _ h => h) fun _ _ h => h)
    fun _ => .pure fun _ h => ⟨outcome, h⟩

/-! ### The whole run -/

theorem Outfitted.abiding : Abiding (Outfitted c : Run σ β → Prop) := by
  intro r l target htarget h
  have helse : (Move.entered target).Elsewhere := by
    refine Move.elsewhere_entered ?_ ?_
    · rintro rfl
      exact absurd htarget (by decide)
    · rintro rfl
      exact absurd htarget (by decide)
  have hadds : Adds id Move.Elsewhere r { r with moves := r.moves.push (.entered target) } :=
    adds_move r helse
  exact (Outfitted.robust r _ h hadds).congr rfl rfl ⟨[], (List.append_nil _).symm⟩

theorem execute_outfits (hv : s.plan.config.validate = .ok ()) (passes : Nat) :
    Ends (Prepared fun devices phases => devices = 0 ∧ phases = []) (execute s passes)
      (fun _ => Outfitted s.plan.config) fun _ => Outfitted s.plan.config := by
  rw [execute_eq]
  refine .bind (untilSuites_outfits hv) fun entries => .of_eq fun r hr => ?_
  obtain ⟨outcome, hr⟩ := hr
  refine .bind ((runSuites_bars (Config.validate_suites hv).nodup entries passes).conseq
    (fun r' h => h ▸ hr) (fun _ _ h => h) fun _ _ h => h) fun _ => ?_
  exact enter_leads Outfitted.robust Move.elsewhere_looked fun r l h =>
    Outfitted.abiding r l _ (by decide) h

theorem carryOut_outfits (hv : s.plan.config.validate = .ok ()) (passes : Nat) :
    Ends (Prepared fun devices phases => devices = 0 ∧ phases = []) (carryOut s passes)
      (fun _ => Outfitted s.plan.config) fun _ => Outfitted s.plan.config :=
  carryOut_keeps s.backend.keeps_nothing
    (Outfitted.robust.mono fun _ hm => Move.elsewhere_of_in hm (by decide) (by decide))
    Outfitted.abiding (fun _ o h => h.congr rfl rfl ⟨[o], rfl⟩) (execute_outfits hv passes)

/-- Every run of an accepted configuration installs on the device of each selected suite the
artifact, and only if that succeeds the packages `wanted` by the suite, in the order of their
names, up to the first one in `requiredBy` that fails (`Served`).  A device is blocked exactly if
its artifact or a package in `requiredBy` has failed on it, and `outcome` tells whether there are
such devices and otherwise whether another package has failed.  However the run ends it is
`Outfitted`: no attempt of a suite is launched whose device is blocked, and of the suites that the
run has taken up exactly those are recorded as blocked by an installation. -/
theorem startWithin_installs (s : Setup σ β) (hv : s.plan.config.validate = .ok ()) (system : σ)
    (memory : β) (passes : Nat) :
    (∀ d, Config.decode d = .ok s.plan.config →
      ∀ suite, (s.plan.config.wanted suite).Pairwise (· < ·)) ∧
    (∀ suite ∈ s.plan.config.selected, ∀ name, name ∈ s.plan.config.wanted suite ↔
      name ∈ s.plan.config.requiredBy suite ∨
        ∃ package, (name, package) ∈ s.plan.config.packages ∧ package.always = true) ∧
    (∀ r : Run σ β, s.plan.config.selected.length ≤ r.devices.length → ∃ calls outcome,
      Served s.plan.config calls (((installArtifacts s).run r).1.map Prod.fst) outcome ∧
        ((installArtifacts s).run r).2.calls = r.calls ++ calls ∧
        ((installArtifacts s).run r).2.phases = r.phases ++ [outcome]) ∧
    Outfitted s.plan.config ((startWithin s passes).run (.fresh s.plan system memory)).2 := by
  refine ⟨fun d hd => Config.wanted_ordered (Config.decode_ordered hd),
    fun suite hsuite name => Config.mem_wanted hv hsuite,
    fun r hlength => installArtifacts_serves r hlength r rfl, ?_⟩
  have hprepared : Robust id (fun _ => False) (Prepared fun devices phases =>
      devices = 0 ∧ phases = [] : Run σ β → Prop) := Prepared.robust.mono fun _ h => h.elim
  have houtfitted : Robust id (fun _ => False) (Outfitted s.plan.config : Run σ β → Prop) :=
    Outfitted.robust.mono fun _ h => h.elim
  exact (startWithin_keeps hprepared houtfitted (carryOut_outfits hv passes)).leads
    (.fresh s.plan system memory) ⟨fun _ hm => absurd hm List.not_mem_nil, rfl, rfl, rfl⟩

end Run

namespace Sample

/-- Both suites are selected; one of them requires a package, and all devices get another one. -/
def stocked : Config := { config with
  selected := ["again", "unit"]
  suites := [("again", suite), ("unit", { suite with requires := ["lib"] })]
  packages := [("lib", ⟨"lib.apk", false⟩), ("tool", ⟨"tool.apk", true⟩)] }

theorem planned_stocked : (plan? stocked).isSome := by decide +kernel

/-- The required package cannot be installed. -/
def spoiled : FaultScript :=
  FaultScript.inject {} .install { message := "KO", package := some "lib" }

/-- The run at its end. -/
def spoiledRun : Run Disk FaultScript :=
  ((Run.startWithin (setup planned_stocked) 20).run
    (.fresh (setup planned_stocked).plan {} spoiled)).2

end Sample

/-- In the small lab the suite that requires the package is not run, and the other one is. -/
theorem Run.startWithin_installs_when_spoiled :
    (Sample.setup Sample.planned_stocked).plan.config.validate = .ok () ∧
    Outfitted (Sample.setup Sample.planned_stocked).plan.config Sample.spoiledRun ∧
    ((Sample.spoiledRun.calls.filter fun call => call.kind = .install).map fun call =>
      (call.index, call.package, call.result)) = [(0, some "main", .done), (0, some "tool", .done),
        (1, some "main", .done), (1, some "lib", .failed)] ∧
    (Sample.spoiledRun.results.map fun x => (x.suite, decide x.Barred)) =
      [("unit", true), ("again", false)] := by
  have hv := Sample.setup_valid Sample.planned_stocked
  obtain ⟨-, -, -, houtfitted⟩ := startWithin_installs (Sample.setup Sample.planned_stocked) hv {}
    Sample.spoiled 20
  exact ⟨hv, houtfitted, by decide +kernel, by decide +kernel⟩

end DeviceLab
