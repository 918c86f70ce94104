import DeviceLab.Proofs.Course

/-! # The end of a run

Whatever stopped a run, its devices are torn down, and it ends in one of two ways.

* `Ended`: each acquired device has been torn down once, in order, and nothing was asked of the
  backend after that.
* `Concluded`: the run has gone through all phases, or has failed in one of them.
* `carryOut_spec`: this is so for every run that does not break down. -/

namespace DeviceLab

namespace Run

variable {σ β κ : Type} {s : Setup σ β} {kept : Device → κ} {P : Device → Prop} {r r' : Run σ β}
  {I : Run σ β → Prop}

/-! ### Tearing down -/

/-- The devices at some indices have been torn down; `P` is what teardown achieves. -/
structure TornDown (kept : Device → κ) (P : Device → Prop) (indices : List Nat)
    (before after : Run σ β) : Prop where
  adds : Adds kept (Move.Fits .devicesStopped) before after
  calls : ∃ new, after.calls = before.calls ++ new ∧ (∀ c ∈ new, c.kind = .teardown) ∧
    new.map BackendCall.index = indices
  devices : ∀ i d, after.devices[i]? = some d →
    (i ∈ indices ∨ ∀ d', before.devices[i]? = some d' → P d') → P d

theorem tearDown_spec (hb : s.backend.Keeps kept)
    (hP : ∀ t, P (s.backend.teardown.run t).2.device) (indices : List Nat) (r : Run σ β)
    (hlt : ∀ i ∈ indices, i < r.devices.length) :
    Leads (· = r) (indices.forM (performPlain .teardown s.backend.teardown))
      fun _ => TornDown kept P indices r := by
  induction indices generalizing r with
  | nil =>
      refine .pure fun r' hr => ?_
      subst hr
      exact ⟨.refl r', ⟨[], by simp, nofun, rfl⟩, fun i d hd h => h.resolve_left nofun d hd⟩
  | cons index rest ih =>
      refine .bind (performPlain_spec hb.teardown (hlt index (List.mem_cons_self ..)))
        fun _ => .of_eq fun r₁ hr₁ => ?_
      obtain ⟨c, hkind, hindex, hdone⟩ := hr₁
      have hlength := hdone.adds.length_devices
      refine (ih r₁ fun i hi => hlength ▸ hlt i (List.mem_cons_of_mem _ hi)).weaken
        fun _ r' h => ?_
      obtain ⟨new, hnew, hkinds, hindices⟩ := h.calls
      refine ⟨(hdone.adds.mono fun m hm => hm ▸ Move.fits_call (by rw [hkind]; rfl)).trans h.adds,
        ⟨c :: new, ?_, ?_, ?_⟩, fun i d hd hi => h.devices i d hd ?_⟩
      · rw [hnew, calls_push hdone.moves, List.append_assoc]
        rfl
      · intro c' hc'
        rcases List.mem_cons.1 hc' with rfl | hc'
        · exact hkind
        · exact hkinds c' hc'
      · rw [List.map_cons, hindices, hindex]
      · -- a later teardown of the same device would not undo this one
        by_cases hrest : i ∈ rest
        · exact .inl hrest
        refine .inr fun d' hd' => ?_
        obtain ⟨t, hset⟩ := hdone.device
        rw [hset, hindex, List.getElem?_set] at hd'
        split at hd'
        · split at hd'
          · cases hd'
            exact hP t
          · cases hd'
        · next hne =>
            have hne' : i ≠ index := fun heq => hne heq.symm
            exact hi.resolve_left (by simp [hne', hrest]) d' hd'

/-- Each acquired device has been torn down once and in order, and that was the last thing asked of
the backend. -/
structure Ended (s : Setup σ β) (kept : Device → κ) (P : Device → Prop) (r : Run σ β) : Prop where
  calls : ∃ before after, r.calls = before ++ after ∧ (∀ c ∈ before, c.kind ≠ .teardown) ∧
    (∀ c ∈ after, c.kind = .teardown) ∧ acquired before = List.range r.devices.length ∧
    after.map BackendCall.index = List.range r.devices.length
  kept : r.devices.map kept =
    (s.plan.config.boundDevices.take r.devices.length).mapIdx fun index slot =>
      kept { index, slot }
  devices : ∀ d ∈ r.devices, P d

theorem calls_of_quiet {p : Move → Prop} (h : Adds kept p r r')
    (hp : ∀ c, ¬p (.called c)) : r'.calls = r.calls := by
  obtain ⟨new, hnew, hcalls⟩ := h.calls
  rw [hnew, List.eq_nil_iff_forall_not_mem.2 fun c hc => hp c (hcalls c hc), List.append_nil]

theorem Ended.steady : Steady id (Ended s kept P : Run σ β → Prop) := by
  refine ⟨fun r r' h hadds => ?_, fun _ _ h => ⟨h.calls, h.kept, h.devices⟩⟩
  have hcalls := calls_of_quiet hadds fun c hc => nomatch hc
  have hdevices := hadds.devices_eq
  exact ⟨by rw [hcalls, hdevices]; exact h.calls, by rw [hdevices]; exact h.kept,
    by rw [hdevices]; exact h.devices⟩

theorem TornDown.ended (h : TornDown kept P (List.range r.devices.length) r r')
    (hacquired : Acquired s kept r) (hmoves : ∀ m ∈ r.moves.toList, m.Before 7) :
    Ended s kept P r' := by
  have hlength := h.adds.length_devices
  obtain ⟨new, hnew, hkinds, hindices⟩ := h.calls
  refine ⟨⟨r.calls, new, hnew, fun c hc hkind => ?_, hkinds, ?_, ?_⟩, ?_, fun d hd => ?_⟩
  · obtain ⟨m, hm, hcall⟩ := List.mem_filterMap.1 hc
    cases m with
    | called c' =>
        cases hcall
        have hbefore := hmoves _ hm .devicesStopped (by rw [Move.phase?, hkind]; rfl)
        exact absurd hbefore (by decide)
    | _ => cases hcall
  · rw [hlength, hacquired.calls]
  · rw [hlength, hindices]
  · rw [hlength, h.adds.devices, hacquired.devices]
  · obtain ⟨i, hi⟩ := List.mem_iff_getElem?.1 hd
    refine h.devices i d hi (.inl (List.mem_range.2 ?_))
    rw [← hlength]
    exact (List.getElem?_eq_some_iff.1 hi).1

/-- What is left to do for a run that has gone through its phases, and for one that has failed. -/
inductive Closing : Lifecycle → Lifecycle → Prop where
  | collected : Closing (.upTo .resultsCollected) (.upTo .done)
  | failed (p : Phase) : Closing (.failedIn p) (.failedIn p)

theorem followToEnd_spec {l l' : Lifecycle} (hl : Closing l l') (hI : Steady id I) :
    Leads (fun r => r.machine = l ∧ I r) (followToEnd : StateM (Run σ β) Unit)
      fun _ r => r.machine = l' ∧ I r := by
  refine .bind (Q := fun run r => run.machine = l ∧ r.machine = l ∧ I r)
    (.get fun _ h => ⟨h.1, h⟩) fun run => ?_
  refine .ite (fun hfailed => .pure fun r hr => ?_) fun hrunning => ?_
  · cases hl with
    | collected => simp [hr.1, Lifecycle.isFailed, Lifecycle.upTo] at hfailed
    | failed p => exact hr.2
  · cases hl with
    | collected =>
        refine .bind ((follow_spec hI rfl).conseq (fun _ hr => hr.2) fun _ _ h => h) fun _ => ?_
        exact follow_spec hI rfl
    | failed p =>
        intro r hr
        simp [hr.1, Lifecycle.isFailed, Lifecycle.failedIn] at hrunning

theorem followToEnd_keeps (hI : Abiding I) :
    Leads I (followToEnd : StateM (Run σ β) Unit) fun _ => I := by
  refine .bind (Q := fun _ => I) (.get fun _ hr => hr) fun run => ?_
  refine .ite (fun _ => .pure fun _ hr => hr) fun _ => ?_
  exact .bind (follow_keeps hI (by decide)) fun _ => follow_keeps hI (by decide)

/-- Stopping the devices keeps what does not depend on the phase and on its outcome. -/
theorem stopDevices_keeps (hb : s.backend.Keeps kept)
    (hI : Robust kept (Move.In .devicesStopped) I) (habiding : Abiding I)
    (hphases : ∀ r o, I r → I { r with phases := r.phases ++ [o] }) :
    Leads I (stopDevices s) fun _ => I := by
  refine .bind (Q := fun _ => I) (.get fun _ hr => hr) fun run => ?_
  refine .bind (.forM fun index _ => performPlain_keeps hI index
    (fun c hc => Move.in_call (by rw [hc]; rfl)) hb.teardown) fun _ => ?_
  refine .bind (onLab_keeps hI _) fun _ => .bind (followToEnd_keeps habiding) fun _ => ?_
  refine .bind (Q := fun _ => I) (.get fun _ hr => hr) fun run => ?_
  exact .modify fun r hr => hphases r _ hr

/-- What the phases lead to is true at the end of the devices, if it does not depend on how the run
is closed. -/
theorem carryOut_keeps {J : Run σ β → Prop} {passes : Nat} (hb : s.backend.Keeps kept)
    (hI : Robust kept (Move.In .devicesStopped) I) (habiding : Abiding I)
    (hphases : ∀ r o, I r → I { r with phases := r.phases ++ [o] })
    (hexecute : Ends J (execute s passes) (fun _ => I) fun _ => I) :
    Ends J (carryOut s passes) (fun _ => I) fun _ => I := by
  have hstop : Leads I (stopDevices s) fun _ => I := stopDevices_keeps hb hI habiding hphases
  refine carryOut_ends hexecute hstop (fun outcome => ?_) fun _ _ h => h
  exact .bind (Q := fun _ => I) (.modify fun r hr => hphases r outcome hr) fun _ =>
    .bind (follow_keeps habiding (by decide)) fun _ => hstop

/-- Every acquired device is torn down, and the run is closed. -/
theorem stopDevices_spec (hb : s.backend.Keeps kept)
    (hP : ∀ t, P (s.backend.teardown.run t).2.device) {l l' : Lifecycle} (hl : Closing l l')
    (verdicts : List Severity) (hI : Robust kept (Move.Fits .devicesStopped) I)
    (hsteady : Steady id I) (hphases : ∀ r o, I r → I { r with phases := r.phases ++ [o] }) :
    Leads (fun r => r.machine = l ∧ Acquired s kept r ∧ (∀ m ∈ r.moves.toList, m.Before 7) ∧
        r.phases.map PhaseOutcome.severity = verdicts ∧ I r) (stopDevices s)
      fun _ r => r.machine = l' ∧ Ended s kept P r ∧
        r.phases.map PhaseOutcome.severity = verdicts ++ [Severity.success] ∧ I r := by
  have hverdicts : Steady id fun r : Run σ β => r.phases.map PhaseOutcome.severity = verdicts :=
    ⟨fun r r' h hadds => by rw [hadds.phases]; exact h, fun _ _ h => h⟩
  have hlater : Steady id fun r : Run σ β => Ended s kept P r ∧
      r.phases.map PhaseOutcome.severity = verdicts ∧ I r :=
    Ended.steady.and (hverdicts.and hsteady)
  have hmachine : Robust id (fun m => m.phase? = none) fun r : Run σ β =>
      r.machine = l ∧ Ended s kept P r ∧
        r.phases.map PhaseOutcome.severity = verdicts ∧ I r :=
    fun r r' h hadds => ⟨hadds.machine.trans h.1, hlater.robust r r' h.2 hadds⟩
  refine .of_eq fun r hr => ?_
  obtain ⟨hmach, hacquired, hmoves, hphase, hi⟩ := hr
  refine .bind (Q := fun run r' => run = r ∧ r' = r) (.get fun _ h => ⟨h, h⟩) fun run => ?_
  refine .of_eq fun r' hr' => ?_
  obtain ⟨rfl, rfl⟩ := hr'
  refine .bind ((tearDown_spec hb hP r'.indices r' fun i hi => List.mem_range.1 hi).weaken
    fun _ r'' h => ?_) fun _ => .bind (onLab_keeps hmachine _) fun _ => ?_
  · exact ⟨h.adds.machine.trans hmach, h.ended hacquired hmoves, by rw [h.adds.phases, hphase],
      hI r' r'' hi h.adds⟩
  refine .bind (followToEnd_spec hl hlater) fun _ => ?_
  refine .bind (Q := fun _ r => r.machine = l' ∧ Ended s kept P r ∧
    r.phases.map PhaseOutcome.severity = verdicts ∧ I r) (.get fun _ h => h) fun run => ?_
  refine .modify fun r h =>
    ⟨h.1, ⟨h.2.1.calls, h.2.1.kept, h.2.1.devices⟩, ?_, hphases _ _ h.2.2.2⟩
  rw [List.map_append, h.2.2.1]
  rfl

/-! ### How a run ends -/

/-- A run has gone through all phases, or has failed in one of them. -/
inductive Concluded (c : Config) (r : Run σ β) : Prop where
  | done (machine : r.machine = .upTo .done) (verdict : Severity)
      (phases : r.phases.map PhaseOutcome.severity = [.success, verdict, .success])
      (installed : verdict = .success ↔ AllInstalled r.calls)
      (accounts : AllRecorded c r)
  | failed (p : Phase) (machine : r.machine = .failedIn p) (accounts : Accounted c p r)

theorem aside_of_stopped {m : Move} (h : m.Fits .devicesStopped) : m.Aside := by
  cases m with
  | launched suite attempt process => exact nomatch h _ rfl
  | refused suite attempt cause => exact nomatch h _ rfl
  | ended run judgement output => exact nomatch h _ rfl
  | _ => exact ⟨rfl, nofun⟩

theorem Accounted.robust {c : Config} {p : Phase} :
    Robust kept Move.Aside (Accounted c p : Run σ β → Prop) := by
  rintro r r' ⟨count, refused, hledger, hreach⟩ hadds
  exact ⟨count, refused, robust_ledger r r' hledger hadds, hreach⟩

theorem Accounted.steady {c : Config} {p : Phase} :
    Steady kept (Accounted c p : Run σ β → Prop) := by
  refine ⟨?_, fun _ _ h => h⟩
  rintro r r' ⟨count, refused, hledger, hreach⟩ hadds
  exact ⟨count, refused, steady_ledger.robust r r' hledger hadds, hreach⟩

theorem carryOut_done (hb : s.backend.Keeps kept)
    (hP : ∀ t, P (s.backend.teardown.run t).2.device) :
    Leads (fun r => Halted s kept .resultsCollected r ∧ Equipped r ∧ AllRecorded s.plan.config r)
      (stopDevices s)
      fun _ r => Ended s kept P r ∧ Concluded s.plan.config r := by
  refine .of_eq fun r hr => ?_
  obtain ⟨hhalted, ⟨verdict, hverdicts, hinstalled⟩, hledger⟩ := hr
  refine (stopDevices_spec hb hP .collected [.success, verdict] (I := fun r => (AllInstalled r.calls ↔
      verdict = .success) ∧ AllRecorded s.plan.config r)
    ((robust_allInstalled (fun c hc hkind => ?_) _).and (robust_ledger.mono fun _ => aside_of_stopped))
    (.and ⟨robust_allInstalled (fun _ h => nomatch h) _, fun _ _ h => h⟩ steady_ledger)
    fun _ _ h => h).conseq (fun r' hr' => ?_) fun _ r' h => ?_
  · have hphase := hc _ rfl
    rw [hkind] at hphase
    cases hphase
  · subst hr'
    exact ⟨hhalted.machine, hhalted.acquired, hhalted.moves, hverdicts, hinstalled.symm, hledger⟩
  · exact ⟨h.2.1, .done h.1 verdict h.2.2.1 h.2.2.2.1.symm h.2.2.2.2⟩

theorem carryOut_failed (hb : s.backend.Keeps kept)
    (hP : ∀ t, P (s.backend.teardown.run t).2.device) (outcome : PhaseOutcome) :
    Leads (Stops s kept (.phase outcome))
      (do addPhase outcome; follow .failed; stopDevices s : StateM (Run σ β) Unit)
      fun _ r => Ended s kept P r ∧ Concluded s.plan.config r := by
  refine .of_eq fun r hr => ?_
  obtain ⟨p, hhalted⟩ := hr outcome rfl
  have hstanding : Steady kept fun r' : Run σ β => Acquired s kept r' ∧
      (∀ m ∈ r'.moves.toList, m.Before 7) ∧
      r'.phases.map PhaseOutcome.severity = (r.phases ++ [outcome]).map PhaseOutcome.severity ∧
      Accounted s.plan.config p r' :=
    Acquired.steady.and (.and (steady_moves fun m hm q hq => by rw [hm] at hq; cases hq)
      (.and ⟨fun r r' h hadds => by rw [hadds.phases]; exact h, fun _ _ h => h⟩ Accounted.steady))
  refine .bind (Q := fun _ r' => r'.machine = .upTo p ∧ Acquired s kept r' ∧
    (∀ m ∈ r'.moves.toList, m.Before 7) ∧
    r'.phases.map PhaseOutcome.severity = (r.phases ++ [outcome]).map PhaseOutcome.severity ∧
    Accounted s.plan.config p r')
    (.modify fun r' hr' => ?_) fun _ => ?_
  · subst hr'
    have hcongr : Standing s kept p 7 { r' with phases := r'.phases ++ [outcome] } :=
      hhalted.toStanding.congr rfl rfl rfl
    exact ⟨hcongr.machine, hcongr.acquired, hcongr.moves, rfl, hhalted.accounts⟩
  refine .bind (follow_failed_spec hstanding (Nat.le_trans hhalted.rank (by decide))) fun _ => ?_
  exact (stopDevices_spec hb hP (.failed p) _ (Accounted.robust.mono fun _ => aside_of_stopped)
    Accounted.steady fun _ _ h => h).weaken fun _ r' h => ⟨h.2.1, .failed p h.1 h.2.2.2⟩

theorem carryOut_spec (hb : s.backend.Keeps kept) (hv : s.plan.config.SuitesValid)
    (hP : ∀ t, P (s.backend.teardown.run t).2.device) (passes : Nat) :
    Ends Begun (carryOut s passes)
      (fun _ r => Ended s kept P r ∧ Concluded s.plan.config r) fun _ _ => True :=
  carryOut_ends (execute_spec hb hv passes) (carryOut_done hb hP) (carryOut_failed hb hP)
    fun _ _ _ => trivial

end Run

end DeviceLab
