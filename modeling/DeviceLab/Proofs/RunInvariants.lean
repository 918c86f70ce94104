import DeviceLab.Proofs.BackendSteps
import DeviceLab.Proofs.Summing
import DeviceLab.Proofs.Supervision

/-! # What lasts through a run

A statement about a run may speak of its lab, its devices and its moves at once.  What has to be
known of such a statement is little: that it survives operations which give nothing up, moves that
are neither calls nor launches, and whatever is written down about phases and suites.  Then it
lasts through each part of a run, if it lasts through the calls that the part makes and, while the
suites run, through their launches.

* `Lasting`: the statements that survive all that.
* `enter_lasts`, `installArtifacts_lasts`, `Lasting.acts`, `stopDevices_lasts`, ...: the parts of a
  run, one lemma each; `execute_lasts`, `carryOut_lasts` put them together.
* `Since`: the lab of a run has come out of another one.  This lasts too, so that from beginning to
  end the lab of a run goes through changes of the known kinds only; `sumUpWithin_since` and
  `keepOutput_since` say so of a run up to its summary, and of what it keeps after that.
* `Logged`, `startWithin_logged`: what survives once only the journal grows is true at the end. -/

namespace DeviceLab

/-- A move that neither calls the backend nor launches a suite or fails to. -/
def Move.Plain : Move → Prop
  | .called _ | .launched .. | .refused .. => False
  | _ => True

theorem Move.Own.plain {m : Move} (h : m.Own) : m.Plain := by
  cases m with
  | called | launched | refused => exact h.elim
  | _ => trivial

namespace Run

variable {σ β α ε : Type}

/-- A statement that survives everything but calls of the backend and launches of suites. -/
structure Lasting (host : Host σ) (I : Run σ β → Prop) : Prop where
  lab : Detached host I
  move : ∀ r m, I r → m.Plain → I { r with moves := r.moves.push m }
  notes : ∀ r machine phases results logNames resultLogs, I r →
    I { r with machine, phases, results, logNames, resultLogs }

variable {s : Setup σ β} {host : Host σ} {I : Run σ β → Prop} {r r' : Run σ β}

/-! ### Small steps -/

section Steps

variable (hI : Lasting host I)

include hI

theorem now_lasts : Preserves I (onLab (Lab.sys host.now) : StateM (Run σ β) Instant) :=
  onLab_detached hI.lab fun _ => Lab.sys_retains .now

theorem addPhase_lasts (outcome : PhaseOutcome) :
    Preserves I (addPhase outcome : StateM (Run σ β) Unit) :=
  .modify fun r hr => hI.notes r _ _ _ _ _ hr

theorem look_lasts : Preserves I (look host : StateM (Run σ β) Bool) :=
  look_detached hI.lab fun r b hr => hI.move r (.looked b) hr trivial

theorem sleep_lasts (d : Duration) : Upholds I (sleep host d : Running σ β Bool) :=
  Ends.weaken (sleep_detached hI.lab (fun r b hr => hI.move r (.looked b) hr trivial) d)
    (fun _ _ h => h) fun _ _ h => h.2

theorem follow_lasts (target : Phase) : Preserves I (follow target : StateM (Run σ β) Unit) := by
  refine .modify fun r hr => ?_
  split
  · rename_i machine _
    have h := hI.notes r machine r.phases r.results r.logNames r.resultLogs hr
    exact hI.move _ (.entered target) h trivial
  · exact hr

omit hI in
theorem enter_lasts (hI : Lasting s.host I) (target : Phase) : Upholds I (enter s target) := by
  have hstop : Upholds I (stopCancelled : Running σ β Unit) := .bind .get fun _ => .throw
  refine .bind (.lift (look_lasts hI)) fun _ => .ite (.bind hstop fun _ => ?_) ?_
  all_goals
    refine .bind .get fun run => ?_
    dsimp only
    split
    · rename_i machine _
      refine .modify fun r hr => ?_
      have h := hI.notes r machine r.phases r.results r.logNames r.resultLogs hr
      exact hI.move _ (.entered target) h trivial
    · exact .throw

end Steps

/-! ### Devices -/

theorem startAttempt_upholds
    (hlaunch : ∀ index, Upholds I (performStep .launch s.backend.launch index))
    (hredirect : ∀ index, Upholds I (performStep .redirect s.backend.redirect index))
    (hcheck : ∀ index, Upholds I (performStep .checkHealth s.backend.checkHealth index)) :
    Upholds I (startAttempt s) :=
  .bind .get fun _ => .bind (.forM hlaunch) fun _ => .bind (.forM hredirect) fun _ => .forM hcheck

theorem startLogCapture_preserves (h : ∀ index,
    Preserves I (perform .startLogCapture none .ofDevice s.backend.startLogCapture.run index)) :
    Preserves I (startLogCapture s) :=
  .bind .get fun _ => .forM fun index => .discard (h index)

section Devices

variable (hI : Lasting s.host I)

include hI

theorem startDevices_lasts (hstart : Upholds I (startAttempt s))
    (habort : Preserves I (abortAttempt s)) : Upholds I (startDevices s) := by
  refine startDevices_ends (F := I) (fun attempt => startOnce_leads (A := I)
    (fun r hr => hI.move r _ hr trivial) ?_ habort) (fun _ _ hr _ _ => hr) fun attempt =>
      Ends.weaken (sleep_lasts hI _) (fun cancelled r hr => ?_) fun _ _ hr => hr
  · exact Ends.weaken hstart (fun _ r hr => hI.notes r _ _ _ _ _ hr) fun _ _ hr => hr
  · cases cancelled <;> exact hr

theorem installArtifacts_lasts
    (h : ∀ index package path, Preserves I (installOne s index package path)) :
    Preserves I (installArtifacts s) := by
  have hrest : ∀ (index : Nat) (requires : List String) (packages : List (String × Package))
      (tally : InstallTally), Preserves I (installRest s index requires tally packages) := by
    intro index requires packages
    induction packages with
    | nil => exact fun _ => .pure
    | cons entry rest ih =>
        obtain ⟨name, package⟩ := entry
        refine fun tally => .ite (.bind (h _ _ _) fun outcome => ?_) (ih tally)
        cases outcome with
        | none => exact ih _
        | some e => exact .ite .pure (ih _)
  have hon : ∀ (index : Nat) (suite : String) (tally : InstallTally),
      Preserves I (installOn s index suite tally) := by
    refine fun index suite tally => .bind .get fun _ => .ite .pure (.bind (h _ _ _) fun outcome => ?_)
    cases outcome with
    | none => exact hrest _ _ _ _
    | some e => exact .pure
  have hfrom : ∀ (suites : List String) (index : Nat) (tally : InstallTally),
      Preserves I (installFrom s index tally suites) := by
    intro suites
    induction suites with
    | nil => exact fun _ _ => .pure
    | cons suite rest ih => exact fun index tally => .bind (hon _ _ _) fun _ => ih _ _
  exact .bind (hfrom _ _ _) fun _ => .bind (addPhase_lasts hI _) fun _ => .pure

end Devices

/-! ### Suites -/

section Suites

variable (hI : Lasting s.host I)

include hI

/-- It lasts through whatever a run does while its suites run. -/
theorem Lasting.acts
    (hcollect : ∀ index, Preserves I
      (performPlain .collectDiagnostics s.backend.collectDiagnostics index))
    (htrigger : ∀ name index attempt, s.plan.config.selected[index]? = some name →
      Upholds I (trigger s name index attempt)) (h : Acts s r r') (hr : I r) : I r' :=
  h.keeps hI.lab (fun r m hm hr => hI.move r m hr hm.plain)
    (fun r _ _ hr => hI.notes r _ _ _ _ _ hr) hcollect htrigger hr

theorem runSuites_lasts
    (hcollect : ∀ index, Preserves I
      (performPlain .collectDiagnostics s.backend.collectDiagnostics index))
    (htrigger : ∀ name index attempt, s.plan.config.selected[index]? = some name →
      Upholds I (trigger s name index attempt)) (passes : Nat) (blocked : List (Nat × String)) :
    Upholds I (runSuites s passes blocked) :=
  Ends.of_eq fun r hr => (runSuites_steps (named_any s r) passes blocked).weaken
    (fun _ _ h => hI.acts hcollect htrigger h.acts hr) fun _ _ h => hI.acts hcollect htrigger h.1 hr

/-- What no move but a call can change lasts through the launch of an attempt. -/
theorem trigger_lasts (hmove : ∀ r m, I r → m.call? = none → I { r with moves := r.moves.push m })
    {name : String} {index : Nat} (hname : s.plan.config.selected[index]? = some name)
    (attempt : Nat) : Upholds I (trigger s name index attempt) := by
  refine Ends.of_leads fun r hr => ?_
  exact (trigger_triggers hname attempt r r rfl).1.keeps hI.lab
    (fun r m _ hm hr => hmove r m hr hm) (fun r _ hr => hI.notes r _ _ _ _ _ hr) hr

end Suites

/-! ### The whole run -/

section Whole

variable {J K : Run σ β → Prop} (hI : Lasting s.host I)

include hI

theorem stopDevices_lasts
    (hteardown : ∀ index, Preserves I (performPlain .teardown s.backend.teardown index)) :
    Preserves I (stopDevices s) :=
  .bind .get fun _ => .bind (.forM hteardown) fun _ =>
    .bind (onLab_detached hI.lab fun _ => Lab.terminateAll_retains) fun _ =>
      .bind (.bind .get fun _ => .ite .pure
        (.bind (follow_lasts hI _) fun _ => follow_lasts hI _)) fun _ =>
          .bind .get fun _ => addPhase_lasts hI _

theorem carryOut_lasts {passes : Nat} (hexecute : Ends J (execute s passes) (fun _ => I) fun _ => I)
    (hteardown : ∀ index, Preserves I (performPlain .teardown s.backend.teardown index)) :
    Ends J (carryOut s passes) (fun _ => I) fun _ => I := by
  have hstop : Preserves I (stopDevices s) := stopDevices_lasts hI hteardown
  refine carryOut_ends hexecute hstop (fun outcome => ?_) fun _ _ h => h
  exact Preserves.bind (addPhase_lasts hI _) fun _ => .bind (follow_lasts hI _) fun _ => hstop

/-- A run keeps `I` until the devices have been acquired, `H` until they have been started, and `J`
from then on; in the end there is `K`. -/
theorem execute_lasts {H : Run σ β → Prop} (hH : Lasting s.host H) (hJ : Lasting s.host J)
    (hIK : ∀ r, I r → K r) (hHK : ∀ r, H r → K r) (hJK : ∀ r, J r → K r)
    (hacquire : Ends I (acquireDevices s) (fun _ => H) fun _ => K)
    (hstart : Ends H (startDevices s) (fun _ => J) fun _ => K)
    (hcapture : ∀ index,
      Preserves J (perform .startLogCapture none .ofDevice s.backend.startLogCapture.run index))
    (hinstall : ∀ index package path, Preserves J (installOne s index package path))
    (hcollect : ∀ index, Preserves J
      (performPlain .collectDiagnostics s.backend.collectDiagnostics index))
    (htrigger : ∀ name index attempt, s.plan.config.selected[index]? = some name →
      Upholds J (trigger s name index attempt))
    (passes : Nat) : Ends I (execute s passes) (fun _ => K) fun _ => K := by
  have hrest : Upholds J (do
      enter s .devicesHealthy
      ExceptT.lift (startLogCapture s)
      enter s .artifactInstalling
      let blocked ← ExceptT.lift (installArtifacts s)
      enter s .suitesRunning
      runSuites s passes blocked
      enter s .resultsCollected : Running σ β Unit) :=
    .bind (enter_lasts hJ _) fun _ => .bind (.lift (startLogCapture_preserves hcapture)) fun _ =>
      .bind (enter_lasts hJ _) fun _ => .bind (.lift (installArtifacts_lasts hJ hinstall))
        fun blocked => .bind (enter_lasts hJ _) fun _ =>
          .bind (runSuites_lasts hJ hcollect htrigger passes blocked) fun _ => enter_lasts hJ _
  refine .bind (Q := fun _ => I) ((enter_lasts hI _).weaken (fun _ _ h => h) fun _ => hIK)
    fun _ => .bind hacquire fun _ => .bind (Q := fun _ => H)
      ((enter_lasts hH _).weaken (fun _ _ h => h) fun _ => hHK) fun _ => .bind hstart fun _ => ?_
  exact Ends.weaken hrest (fun _ => hJK) fun _ => hJK

end Whole

/-! ### The lab -/

/-- The lab of a run has come out of another one by a row of changes. -/
def Since (host : Host σ) (start : Lab σ) (r : Run σ β) : Prop := Lab.Evolves host start r.lab

variable {start : Lab σ}

theorem lasting_since : Lasting host (Since host start : Run σ β → Prop) where
  lab _ _ h hlab := Relation.ReflTransGen.trans h hlab.evolves
  move _ _ h _ := h
  notes _ _ _ _ _ _ h := h

theorem onLab_since {operation : StateM (Lab σ) α}
    (h : Preserves (Lab.Evolves host start) operation) :
    Preserves (Since host start) (onLab operation : StateM (Run σ β) α) :=
  .modifyGet fun r hr => h r.lab hr

theorem perform_since {kind : CallKind} {package : Option String} {ending : α → CallResult}
    {step : StateM (Station σ β) α} (h : Preserves (fun t => Lab.Evolves host start t.lab) step)
    (index : Nat) : Preserves (Since host start) (perform kind package ending step index) := by
  refine .modifyGet fun r hr => ?_
  cases r.devices[index]? with
  | none => exact hr
  | some device => exact h ⟨device, r.memory, r.lab⟩ hr

theorem performPlain_since {kind : CallKind} {step : StateM (Station σ β) Unit}
    (h : Preserves (fun t => Lab.Evolves host start t.lab) step) (index : Nat) :
    Preserves (Since host start) (performPlain kind step index) :=
  .discard (perform_since h index)

theorem performStep_since {kind : CallKind} {step : DeviceStep σ β DeviceError Unit}
    (h : Upholds (fun t => Lab.Evolves host start t.lab) step) (index : Nat) :
    Upholds (Since host start) (performStep kind step index) := by
  refine .bind (.lift (perform_since (.attempt h) index)) fun outcome => ?_
  split
  · exact .throw
  · exact .pure

section Since

variable (hb : s.backend.Upheld fun t => Lab.Evolves s.host start t.lab)

include hb

theorem acquireOne_since (index : Nat) (slot : DeviceSlot) :
    Upholds (Since s.host start) (acquireOne s index slot) := by
  refine Ends.bind (Q := fun run r => r = run ∧ Since s.host start r) (.get fun r h => ⟨rfl, h⟩)
    fun run => ?_
  refine Ends.bind (Q := fun _ => Since s.host start) (.set fun r hr => ?_) fun _ => ?_
  · obtain ⟨rfl, hr⟩ := hr
    exact Preserves.attempt hb.acquire ⟨{ index, slot }, r.memory, r.lab⟩ hr
  · split
    · exact Upholds.modify fun _ h => h
    · exact Upholds.throw

theorem acquireDevices_since : Upholds (Since s.host start) (acquireDevices s) := by
  have hfrom : ∀ (slots : List DeviceSlot) (index : Nat),
      Upholds (Since s.host start) (acquireFrom s index slots) := by
    intro slots
    induction slots with
    | nil => exact fun _ => .pure
    | cons slot rest ih => exact fun index => .bind (acquireOne_since hb index slot) fun _ => ih _
  exact hfrom _ 0

/-- However its phases end, a run has taken its lab through changes of the known kinds. -/
theorem execute_since (passes : Nat) : Upholds (Since s.host start) (execute s passes) := by
  have hlasting : Lasting s.host (Since s.host start : Run σ β → Prop) := lasting_since
  refine execute_lasts hlasting hlasting hlasting (fun _ h => h) (fun _ h => h) (fun _ h => h)
    (acquireDevices_since hb) (startDevices_lasts hlasting ?_ ?_)
    (perform_since (.attempt hb.startLogCapture)) (fun index package path => ?_)
    (performPlain_since hb.collectDiagnostics)
    (fun _ _ attempt hname => trigger_lasts hlasting (fun _ _ h _ => h) hname attempt) passes
  · exact startAttempt_upholds (performStep_since hb.launch) (performStep_since hb.redirect)
      (performStep_since hb.checkHealth)
  · exact .bind .get fun _ => .forM (performPlain_since hb.abortStart)
  · refine .bind (perform_since (.attempt (hb.install package path)) index) fun outcome => ?_
    split <;> exact .pure

theorem carryOut_since (passes : Nat) : Upholds (Since s.host start) (carryOut s passes) :=
  carryOut_lasts lasting_since (execute_since hb passes) (performPlain_since hb.teardown)

omit hb in
theorem sumUp_since (started : Instant) : Preserves (Since s.host start) (sumUp s started) := by
  refine .bind .get fun run => .bind (now_lasts lasting_since) fun now => ?_
  dsimp only
  exact .bind (onLab_detached lasting_since.lab fun _ => Lab.sys_retains .timestamp) fun _ => .pure

/-- Up to its summary a run takes its lab through changes of the known kinds. -/
theorem sumUpWithin_since (passes : Nat) :
    Ends (Since s.host start) (sumUpWithin s passes) (fun _ => Since s.host start)
      fun _ _ => True := by
  refine .bind (.lift (now_lasts lasting_since)) fun started => .bind
    (.tryCatch (carryOut_since hb passes) fun cause =>
      .bind (Q := fun _ _ => True) (fun _ _ => trivial) fun _ => .throw fun _ _ => trivial)
    fun _ => .lift (sumUp_since started)

end Since

theorem keepEach_since (dir : String) (ids : List ProcessId) :
    Preserves (Since s.host start) (keepEach s dir ids) := by
  induction ids with
  | nil => exact .pure
  | cons id rest ih =>
      refine .bind .get fun run => .bind
        (onLab_detached lasting_since.lab fun _ => Lab.preserve_retains _ _) fun kept => ?_
      split
      · exact .bind ih fun _ => .pure
      · exact ih

theorem keepOutput_since (summary : RunSummary) :
    Preserves (Since s.host start) (keepOutput s summary) :=
  .ite .pure (.bind (.bind .get fun _ => .bind (keepEach_since _ _) fun _ => .pure) fun _ => .pure)

/-- A statement that survives whatever is done to the lab, as long as its journal only grows. -/
def Logged (L : Run σ β → Prop) : Prop :=
  ∀ r lab, L r → Lab.Grows r.lab lab → L { r with lab }

section Logged

variable {L : Run σ β → Prop} (hL : Logged L)

include hL

theorem onLab_logged {operation : StateM (Lab σ) α}
    (h : ∀ start, Preserves (Lab.Grows start) operation) :
    Preserves L (onLab operation : StateM (Run σ β) α) :=
  .modifyGet fun r hr => hL r _ hr (h r.lab r.lab .refl)

theorem keepEach_logged (dir : String) (ids : List ProcessId) :
    Preserves L (keepEach s dir ids) := by
  induction ids with
  | nil => exact .pure
  | cons id rest ih =>
      refine .bind .get fun run => .bind (onLab_logged hL fun _ =>
        Lab.grows_of_retains fun _ => Lab.preserve_retains _ _) fun kept => ?_
      split
      · exact .bind ih fun _ => .pure
      · exact ih

theorem releaseAll_logged : Preserves L (releaseAll s) :=
  .bind .get fun _ => .forM fun _ =>
    .discard (onLab_logged hL fun _ => Lab.grows_of_evolves fun _ => Lab.release_evolves)

theorem finish_logged (summary : RunSummary) : Preserves L (finish s summary) := by
  have hkeep : Preserves L (keepOutput s summary) :=
    .ite .pure (.bind (.bind .get fun _ => .bind (keepEach_logged hL _ _) fun _ => .pure)
      fun _ => .pure)
  refine .bind .get fun _ => .bind hkeep fun kept => .bind (releaseAll_logged hL) fun _ =>
    .bind (onLab_logged hL fun _ => Lab.sys_grows _) fun written => ?_
  split <;> exact .pure

/-- What is true when the devices have been stopped, or a run has broken down, is true at its end.
-/
theorem startWithin_logged {passes : Nat} {P : Run σ β → Prop}
    (hstart : Preserves P (onLab (Lab.sys s.host.now) : StateM (Run σ β) Instant))
    (h : Ends P (carryOut s passes) (fun _ => L) fun _ => L) :
    Ends P (startWithin s passes) (fun _ => L) fun _ => L := by
  have hclose : Preserves L (onLab (Lab.close s.host) : StateM (Run σ β) Unit) :=
    onLab_logged hL fun _ => Lab.close_grows
  have hsum : Ends P (sumUpWithin s passes) (fun _ => L) fun _ => L := by
    refine .bind (Q := fun _ => P) (.lift hstart) fun started => .bind (Q := fun _ => L)
      (.tryCatch h fun cause => .bind (Q := fun _ => L) (.lift hclose) fun _ => .throw fun _ h => h)
      fun _ => .lift ?_
    exact Preserves.bind .get fun _ => .bind (onLab_logged hL fun _ => Lab.sys_grows _) fun _ =>
      .bind (onLab_logged hL fun _ => Lab.sys_grows _) fun _ => .pure
  exact .bind hsum fun summary => .bind (Q := fun _ => L) (.lift (finish_logged hL summary))
    fun _ => .bind (Q := fun _ => L) (.lift hclose) fun _ => .pure fun _ h => h

end Logged

end Run

end DeviceLab
