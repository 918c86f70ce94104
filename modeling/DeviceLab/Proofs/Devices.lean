import DeviceLab.Proofs.Phases
import DeviceLab.Proofs.Retrying

/-! # The devices before the suites

The devices are acquired and started, and then packages are installed on them.

* `acquired`: the places of the devices whose acquisition succeeded, read off the backend calls.
* `Run.Acquired`: they are the places of the devices of a run, in order, and what is kept of each
  device is what was kept of it when it was acquired.  Acquisition establishes this
  (`acquireDevices_spec`), also when it fails, and everything after leaves it true
  (`Acquired.robust`).
* `startDevices_spec`, `startLogCapture_keeps`: however often the devices are started anew, only the
  outcome of the phase is recorded.
* `AllInstalled`, `installArtifacts_spec`: a run keeps a tally of what could not be installed, and
  the tally misses nothing: the phase succeeds exactly when every installation that was asked for
  succeeded. -/

/-! ## Acquiring and starting -/

namespace DeviceLab

/-- The places of the devices whose acquisition succeeded. -/
def acquired (calls : List BackendCall) : List Nat :=
  (calls.filter fun c => c.kind == .acquire && c.result == .done).map BackendCall.index

theorem acquired_append (calls new : List BackendCall) :
    acquired (calls ++ new) = acquired calls ++ acquired new := by
  simp [acquired]

theorem acquired_of_others {calls : List BackendCall} (h : ∀ c ∈ calls, c.kind ≠ .acquire) :
    acquired calls = [] := by
  rw [acquired, List.map_eq_nil_iff, List.filter_eq_nil_iff]
  intro c hc
  simp [h c hc]

namespace Run

variable {σ β κ : Type} {kept : Device → κ} {p : Move → Prop} {s : Setup σ β}
  {I J : Run σ β → Prop} {r r' : Run σ β}

/-! ### Acquiring -/

/-- The devices of a run are those whose acquisition succeeded, in order. -/
structure Acquired (s : Setup σ β) (kept : Device → κ) (r : Run σ β) : Prop where
  calls : acquired r.calls = List.range r.devices.length
  devices : r.devices.map kept =
    (s.plan.config.boundDevices.take r.devices.length).mapIdx fun index slot =>
      kept { index, slot }

theorem Acquired.robust (hp : ∀ c, p (.called c) → c.kind ≠ .acquire) :
    Robust kept p (Acquired s kept) := by
  intro r r' h hadds
  obtain ⟨new, hnew, hcalls⟩ := hadds.calls
  have hothers : acquired new = [] := acquired_of_others fun c hc => hp c (hcalls c hc)
  constructor
  · rw [hnew, acquired_append, hothers, List.append_nil, hadds.length_devices, h.calls]
  · rw [hadds.devices, hadds.length_devices, h.devices]

theorem Acquired.steady : Steady kept (Acquired s kept) :=
  ⟨Acquired.robust (fun _ h => nomatch h), fun _ _ h => ⟨h.calls, h.devices⟩⟩

/-- A run that is about to acquire the device of a slot. -/
structure Acquiring (s : Setup σ β) (kept : Device → κ) (slots : List DeviceSlot)
    (r : Run σ β) : Prop extends Acquired s kept r where
  rest : s.plan.config.boundDevices.drop r.devices.length = slots

theorem Acquired.failed (h : Acquired s kept r) {c : BackendCall} (hc : acquired [c] = [])
    (hmoves : r'.moves = r.moves.push (.called c)) (hdevices : r'.devices = r.devices) :
    Acquired s kept r' := by
  have hcalls : r'.calls = r.calls ++ [c] := calls_push hmoves
  constructor
  · rw [hcalls, acquired_append, hc, List.append_nil, hdevices, h.calls]
  · rw [hdevices, h.devices]

theorem Acquiring.next {slot : DeviceSlot} {rest : List DeviceSlot}
    (h : Acquiring s kept (slot :: rest) r) {c : BackendCall} {d : Device}
    (hc : acquired [c] = [r.devices.length])
    (hd : kept d = kept { index := r.devices.length, slot })
    (hmoves : r'.moves = r.moves.push (.called c)) (hdevices : r'.devices = r.devices ++ [d]) :
    Acquiring s kept rest r' := by
  have hcalls : r'.calls = r.calls ++ [c] := calls_push hmoves
  have hlt : r.devices.length < s.plan.config.boundDevices.length := by
    refine Nat.lt_of_not_le fun hge => ?_
    have hnil := h.rest
    rw [List.drop_of_length_le hge] at hnil
    cases hnil
  have hcons := List.drop_eq_getElem_cons hlt
  rw [h.rest] at hcons
  obtain ⟨hslot, hrest⟩ := List.cons.inj hcons
  have hlength : r'.devices.length = r.devices.length + 1 := by
    rw [hdevices, List.length_append, List.length_singleton]
  refine ⟨⟨?_, ?_⟩, ?_⟩
  · rw [hcalls, acquired_append, hc, h.calls, hlength, List.range_succ]
  · rw [hlength, List.take_succ_eq_append_getElem hlt, List.mapIdx_append, hdevices,
      List.map_append, h.devices, ← hslot]
    simp [hd, Nat.min_eq_left (Nat.le_of_lt hlt)]
  · rw [hlength, hrest]

/-- One device is acquired, or the run stops with those it has. -/
theorem acquireOne_spec (hb : s.backend.Keeps kept)
    (hcall : ∀ r lab memory c, I r → c.kind = .acquire →
      I { r with lab, memory, moves := r.moves.push (.called c) })
    (hdevice : ∀ r d, I r → I { r with devices := r.devices ++ [d] })
    (index : Nat) (slot : DeviceSlot) (rest : List DeviceSlot) :
    Ends (fun r => Acquiring s kept (slot :: rest) r ∧ r.devices.length = index ∧ I r)
      (acquireOne s index slot)
      (fun _ r => Acquiring s kept rest r ∧ r.devices.length = index + 1 ∧ I r)
      fun stop r => (∃ outcome, stop = .phase outcome) ∧ Acquired s kept r ∧ I r := by
  refine .of_eq fun r hr => ?_
  obtain ⟨hacq, rfl, hi⟩ := hr
  refine .bind (Q := fun run r' => run = r ∧ r' = r) (.get fun _ h => ⟨h, h⟩) fun run => ?_
  refine .of_eq fun r' hr' => ?_
  obtain ⟨rfl, rfl⟩ := hr'
  dsimp only
  have hkept := hb.acquire ⟨{ index := r'.devices.length, slot }, r'.memory, r'.lab⟩
  rw [StateT.run] at hkept
  generalize s.backend.acquire.run _ = outcome at hkept ⊢
  obtain ⟨result, station⟩ := outcome
  -- the call is written down whatever the backend answers
  refine .bind (.set (Q := fun _ r₁ => r₁ = _) fun _ _ => rfl) fun _ => ?_
  cases result with
  | ok _ =>
      refine .modify fun r₁ hr₁ => ?_
      subst hr₁
      exact ⟨hacq.next rfl hkept rfl rfl, by simp, hdevice _ _ (hcall _ _ _ _ hi rfl)⟩
  | error e =>
      refine .throw fun r₁ hr₁ => ?_
      subst hr₁
      have hnone : acquired [⟨.acquire, r'.devices.length, slot.name, none,
          .ofDevice (Except.error e : Except DeviceError Unit)⟩] = [] := by
        cases he : e.isFatal <;> simp [acquired, CallResult.ofDevice, he]
      exact ⟨⟨_, rfl⟩, hacq.failed hnone rfl rfl, hcall _ _ _ _ hi rfl⟩

/-- All devices are acquired, or the run stops with those it has. -/
theorem acquireFrom_spec (hb : s.backend.Keeps kept)
    (hcall : ∀ r lab memory c, I r → c.kind = .acquire →
      I { r with lab, memory, moves := r.moves.push (.called c) })
    (hdevice : ∀ r d, I r → I { r with devices := r.devices ++ [d] })
    (slots : List DeviceSlot) (index : Nat) :
    Ends (fun r => Acquiring s kept slots r ∧ r.devices.length = index ∧ I r)
      (acquireFrom s index slots) (fun _ r => Acquired s kept r ∧ I r)
      fun stop r => (∃ outcome, stop = .phase outcome) ∧ Acquired s kept r ∧ I r := by
  induction slots generalizing index with
  | nil => exact .pure fun _ hr => ⟨hr.1.toAcquired, hr.2.2⟩
  | cons slot rest ih =>
      exact .bind (acquireOne_spec hb hcall hdevice index slot rest) fun _ => ih (index + 1)

theorem acquireDevices_spec (hb : s.backend.Keeps kept)
    (hcall : ∀ r lab memory c, I r → c.kind = .acquire →
      I { r with lab, memory, moves := r.moves.push (.called c) })
    (hdevice : ∀ r d, I r → I { r with devices := r.devices ++ [d] }) :
    Ends (fun r => r.devices = [] ∧ acquired r.calls = [] ∧ I r) (acquireDevices s)
      (fun _ r => Acquired s kept r ∧ I r)
      fun stop r => (∃ outcome, stop = .phase outcome) ∧ Acquired s kept r ∧ I r := by
  refine (acquireFrom_spec hb hcall hdevice _ 0).conseq (fun r hr => ?_)
    (fun _ _ h => h) (fun _ _ h => h)
  obtain ⟨hdev, hcalls, hi⟩ := hr
  exact ⟨⟨⟨by simp [hdev, hcalls], by simp [hdev]⟩, by simp [hdev]⟩, by simp [hdev], hi⟩

/-- Acquiring the devices keeps what neither a call nor a new device changes. -/
theorem acquireOne_keeps
    (hcall : ∀ r lab memory c, I r → c.kind = .acquire →
      I { r with lab, memory, moves := r.moves.push (.called c) })
    (hdevice : ∀ r d, I r → I { r with devices := r.devices ++ [d] }) (index : Nat)
    (slot : DeviceSlot) :
    Ends I (acquireOne s index slot) (fun _ => I)
      fun stop r => (∃ outcome, stop = .phase outcome) ∧ I r := by
  refine .bind (Q := fun run _ => I run) (.get fun _ h => h) fun run => .of_eq fun r hr => ?_
  dsimp only
  refine .bind (Q := fun _ => I) (.set fun _ _ => hcall run _ _ _ hr rfl) fun _ => ?_
  split
  · exact .modify fun r h => hdevice r _ h
  · exact .throw fun r h => ⟨⟨_, rfl⟩, h⟩

theorem acquireDevices_keeps
    (hcall : ∀ r lab memory c, I r → c.kind = .acquire →
      I { r with lab, memory, moves := r.moves.push (.called c) })
    (hdevice : ∀ r d, I r → I { r with devices := r.devices ++ [d] }) :
    Ends I (acquireDevices s) (fun _ => I)
      fun stop r => (∃ outcome, stop = .phase outcome) ∧ I r := by
  have hfrom : ∀ (slots : List DeviceSlot) (index : Nat), Ends I (acquireFrom s index slots)
      (fun _ => I) fun stop r => (∃ outcome, stop = .phase outcome) ∧ I r := by
    intro slots
    induction slots with
    | nil => exact fun _ => .pure fun _ h => h
    | cons slot rest ih =>
        exact fun index => .bind (acquireOne_keeps hcall hdevice index slot) fun _ => ih (index + 1)
  exact hfrom _ 0

/-! ### Starting -/

theorem startAttempt_keeps (hb : s.backend.Keeps kept)
    (hI : Robust kept (Move.In .devicesStarting) I) :
    Ends I (startAttempt s) (fun _ => I) fun _ => I := by
  refine .bind (Q := fun _ => I) (.get fun _ hr => hr) fun run => ?_
  refine .bind (.forM fun index _ => ?_) fun _ => .bind (.forM fun index _ => ?_) fun _ =>
    .forM fun index _ => ?_
  · exact performStep_keeps hI index (fun c hc => Move.in_call (by rw [hc]; rfl)) hb.launch
  · exact performStep_keeps hI index (fun c hc => Move.in_call (by rw [hc]; rfl)) hb.redirect
  · exact performStep_keeps hI index (fun c hc => Move.in_call (by rw [hc]; rfl)) hb.checkHealth

theorem abortAttempt_keeps (hb : s.backend.Keeps kept)
    (hI : Robust kept (Move.In .devicesStarting) I) :
    Leads I (abortAttempt s) fun _ => I :=
  .bind (Q := fun _ => I) (.get fun _ hr => hr) fun _ => .forM fun index _ =>
    performPlain_keeps hI index (fun c hc => Move.in_call (by rw [hc]; rfl)) hb.abortStart

/-- However often the devices are started anew, only the outcome of the phase is recorded. -/
theorem startDevices_spec (hb : s.backend.Keeps kept)
    (hI : Robust kept (Move.Fits .devicesStarting) I)
    (hJ : ∀ r words, I r →
      J { r with phases := r.phases ++ [.plain .devicesStarting .success words] }) :
    Ends I (startDevices s) (fun _ => J) fun stop r => s.MayStop stop ∧ I r := by
  refine startDevices_ends (F := I) (fun attempt => startOnce_leads (A := I)
    (fun r hr => hI r _ hr (adds_move r fun _ hq => by cases hq; rfl)) ?_
    (abortAttempt_keeps hb (hI.mono fun _ h => h.fits))) (fun o r hr _ _ => ⟨trivial, hr⟩)
    fun attempt => (sleep_keeps hI s.host (Move.fits_looked _) _).weaken (fun cancelled r hr => ?_)
      fun stop r h => ?_
  · exact (startAttempt_keeps hb (hI.mono fun _ h => h.fits)).weaken (fun _ r hr => hJ r _ hr)
      fun _ _ hr => hr
  · cases cancelled with
    | true => exact ⟨trivial, hr⟩
    | false => exact hr
  · obtain ⟨⟨rfl, hpast⟩, hr⟩ := h
    exact ⟨.retry hpast, hr⟩

theorem startLogCapture_keeps (hb : s.backend.Keeps kept)
    (hI : Robust kept (Move.In .devicesHealthy) I) :
    Leads I (startLogCapture s) fun _ => I :=
  .bind (Q := fun _ => I) (.get fun _ hr => hr) fun _ => .forM fun index _ =>
    .discard (perform_keeps hI index (fun c hc => Move.in_call (by rw [hc]; rfl))
      hb.startLogCapture)

end Run

end DeviceLab

/-! ## Installing packages -/

namespace DeviceLab

/-- No installation that was asked for has failed. -/
def AllInstalled (calls : List BackendCall) : Prop :=
  ∀ c ∈ calls, c.kind = .install → c.result = .done

theorem allInstalled_append {calls new : List BackendCall} :
    AllInstalled (calls ++ new) ↔ AllInstalled calls ∧ AllInstalled new := by
  simp only [AllInstalled, List.mem_append]
  constructor
  · exact fun h => ⟨fun c hc => h c (.inl hc), fun c hc => h c (.inr hc)⟩
  · rintro ⟨h, h'⟩ c (hc | hc)
    · exact h c hc
    · exact h' c hc

theorem allInstalled_of_others {calls : List BackendCall} (h : ∀ c ∈ calls, c.kind ≠ .install) :
    AllInstalled calls :=
  fun c hc hkind => absurd hkind (h c hc)

namespace Run

variable {σ β κ : Type} {kept : Device → κ} {p : Move → Prop} {s : Setup σ β}
  {I J : Run σ β → Prop}

/-- Nothing has gone wrong. -/
def InstallTally.Clean (t : InstallTally) : Prop := t.blocked = [] ∧ t.optional = 0

theorem InstallTally.outcome_success {t : InstallTally} :
    t.outcome.severity = .success ↔ t.Clean := by
  obtain ⟨blocked, optional⟩ := t
  cases blocked with
  | cons entry rest => simp [outcome, Clean, PhaseOutcome.failure, FailureKind.severity]
  | nil => cases optional <;> simp [outcome, Clean, PhaseOutcome.plain]

/-- Calls of other kinds do not matter for what was installed. -/
theorem robust_allInstalled (hp : ∀ c, p (.called c) → c.kind ≠ .install) (g : Prop) :
    Robust kept p fun r : Run σ β => AllInstalled r.calls ↔ g := by
  intro r r' h hadds
  obtain ⟨new, hnew, hcalls⟩ := hadds.calls
  have hothers := allInstalled_of_others fun c hc => hp c (hcalls c hc)
  rw [hnew, allInstalled_append, and_iff_left hothers, h]

/-! ### What installing leaves alone -/

theorem installOne_keeps (hb : s.backend.Keeps kept)
    (hI : Robust kept (Move.In .artifactInstalling) I) (index : Nat) (package path : String) :
    Leads I (installOne s index package path) fun _ => I := by
  refine .bind (perform_keeps hI index (fun c hc => Move.in_call (by rw [hc]; rfl))
    (hb.install package path)) fun result => ?_
  split
  · exact .pure fun _ hr => hr
  · exact .pure fun _ hr => hr

theorem installRest_keeps (hb : s.backend.Keeps kept)
    (hI : Robust kept (Move.In .artifactInstalling) I) (index : Nat) (requires : List String)
    (packages : List (String × Package)) (tally : InstallTally) :
    Leads I (installRest s index requires tally packages) fun _ => I := by
  induction packages generalizing tally with
  | nil => exact .pure fun _ hr => hr
  | cons entry rest ih =>
      obtain ⟨name, package⟩ := entry
      refine .ite (fun _ => ?_) fun _ => ih tally
      refine .bind (installOne_keeps hb hI index name _) fun e => ?_
      cases e with
      | none => exact ih tally
      | some e => exact .ite (fun _ => .pure fun _ hr => hr) fun _ => ih _

theorem installFrom_keeps (hb : s.backend.Keeps kept)
    (hI : Robust kept (Move.In .artifactInstalling) I) (suites : List String) (index : Nat)
    (tally : InstallTally) :
    Leads I (installFrom s index tally suites) fun _ => I := by
  induction suites generalizing index tally with
  | nil => exact .pure fun _ hr => hr
  | cons suite rest ih =>
      refine .bind ?_ fun tally => ih (index + 1) tally
      refine .bind (Q := fun _ => I) (.get fun _ hr => hr) fun run =>
        .ite (fun _ => .pure fun _ hr => hr) fun _ => ?_
      refine .bind (installOne_keeps hb hI index mainPackage _) fun e => ?_
      cases e with
      | none => exact installRest_keeps hb hI index _ _ tally
      | some e => exact .pure fun _ hr => hr

/-- Installing keeps what does not depend on the outcomes of phases. -/
theorem installArtifacts_keeps (hb : s.backend.Keeps kept)
    (hI : Robust kept (Move.In .artifactInstalling) I)
    (hphases : ∀ r o, I r → I { r with phases := r.phases ++ [o] }) :
    Leads I (installArtifacts s) fun _ => I :=
  .bind (installFrom_keeps hb hI _ 0 {}) fun _ =>
    .bind (Q := fun _ => I) (.modify fun r hr => hphases r _ hr) fun _ => .pure fun _ hr => hr

/-! ### The tally -/

/-- An installation fails exactly when its call does. -/
theorem installOne_spec (hb : s.backend.Keeps kept)
    (hI : Robust kept (Move.Fits .artifactInstalling) I) (g : Prop)
    (index : Nat) (package path : String) :
    Leads (fun r => I r ∧ (AllInstalled r.calls ↔ g)) (installOne s index package path)
      fun e r => I r ∧ (AllInstalled r.calls ↔ g ∧ e = none) := by
  refine .of_eq fun r hr => .bind (perform_spec (hb.install package path) index r) fun result => ?_
  refine .of_eq fun r' hr' => ?_
  cases result with
  | none =>
      refine .pure fun r'' h => ?_
      rw [h, hr'.1]
      exact ⟨hr.1, by simpa using hr.2⟩
  | some result =>
      obtain ⟨c, hkind, -, hresult, hdone⟩ := hr'
      have hI' : I r' := hI r r' hr.1 (hdone.adds.mono fun m hm =>
        hm ▸ Move.fits_call (by rw [hkind]; rfl))
      have hcalls : r'.calls = r.calls ++ [c] := calls_push hdone.moves
      have hlast : AllInstalled [c] ↔ c.result = .done := by simp [AllInstalled, hkind]
      cases result with
      | error e =>
          refine .pure fun r'' h => ⟨h ▸ hI', ?_⟩
          rw [h, hcalls, allInstalled_append, hlast, hresult]
          simp [CallResult.ofInstall]
      | ok _ =>
          refine .pure fun r'' h => ⟨h ▸ hI', ?_⟩
          rw [h, hcalls, allInstalled_append, hlast, hresult, hr.2]
          simp [CallResult.ofInstall]

/-- The tally is clean exactly when no installation has failed. -/
theorem installRest_spec (hb : s.backend.Keeps kept)
    (hI : Robust kept (Move.Fits .artifactInstalling) I) (index : Nat) (requires : List String)
    (packages : List (String × Package)) (tally : InstallTally) :
    Leads (fun r => I r ∧ (AllInstalled r.calls ↔ tally.Clean))
      (installRest s index requires tally packages)
      fun t r => I r ∧ (AllInstalled r.calls ↔ t.Clean) := by
  induction packages generalizing tally with
  | nil => exact .pure fun _ hr => hr
  | cons entry rest ih =>
      obtain ⟨name, package⟩ := entry
      refine .ite (fun _ => ?_) fun _ => ih tally
      refine .bind (installOne_spec hb hI _ index name _) fun e => ?_
      cases e with
      | none => exact (ih tally).conseq (fun _ hr => by simpa using hr) fun _ _ h => h
      | some e =>
          -- after a failure neither side of the equivalence holds again
          have hfailed : ∀ (t : InstallTally) (r : Run σ β), ¬t.Clean →
              I r ∧ (AllInstalled r.calls ↔ tally.Clean ∧ some e = none) →
              I r ∧ (AllInstalled r.calls ↔ t.Clean) := by
            intro t r ht hr
            exact ⟨hr.1, by simp [hr.2, ht]⟩
          refine .ite (fun _ => .pure fun r hr => hfailed _ r ?_ hr) fun _ =>
            (ih _).conseq (fun r hr => hfailed _ r ?_ hr) fun _ _ h => h
          · simp [InstallTally.Clean]
          · simp [InstallTally.Clean]

theorem installOn_spec (hb : s.backend.Keeps kept)
    (hI : Robust kept (Move.Fits .artifactInstalling) I) (index : Nat) (suite : String)
    (tally : InstallTally) :
    Leads (fun r => I r ∧ (AllInstalled r.calls ↔ tally.Clean)) (installOn s index suite tally)
      fun t r => I r ∧ (AllInstalled r.calls ↔ t.Clean) := by
  refine .bind (Q := fun _ r => I r ∧ (AllInstalled r.calls ↔ tally.Clean)) (.get fun _ hr => hr)
    fun run => .ite (fun _ => .pure fun _ hr => hr) fun _ => ?_
  refine .bind (installOne_spec hb hI _ index mainPackage _) fun e => ?_
  cases e with
  | none =>
      exact (installRest_spec hb hI index _ _ tally).conseq (fun _ hr => by simpa using hr)
        fun _ _ h => h
  | some e => exact .pure fun r hr => ⟨hr.1, by simp [hr.2, InstallTally.Clean]⟩

theorem installFrom_spec (hb : s.backend.Keeps kept)
    (hI : Robust kept (Move.Fits .artifactInstalling) I) (suites : List String) (index : Nat)
    (tally : InstallTally) :
    Leads (fun r => I r ∧ (AllInstalled r.calls ↔ tally.Clean)) (installFrom s index tally suites)
      fun t r => I r ∧ (AllInstalled r.calls ↔ t.Clean) := by
  induction suites generalizing index tally with
  | nil => exact .pure fun _ hr => hr
  | cons suite rest ih => exact .bind (installOn_spec hb hI index suite tally) fun t => ih _ t

/-- The phase succeeds exactly when no installation has failed. -/
theorem installArtifacts_spec (hb : s.backend.Keeps kept)
    (hI : Robust kept (Move.Fits .artifactInstalling) I)
    (hJ : ∀ r (o : PhaseOutcome), I r → (o.severity = .success ↔ AllInstalled r.calls) →
      J { r with phases := r.phases ++ [o] }) :
    Leads (fun r => I r ∧ AllInstalled r.calls) (installArtifacts s) fun _ => J := by
  refine .bind (Q := fun t r => I r ∧ (AllInstalled r.calls ↔ t.Clean)) ?_ fun t => ?_
  · refine (installFrom_spec hb hI _ 0 {}).conseq (fun r hr => ?_) fun _ _ h => h
    exact ⟨hr.1, iff_of_true hr.2 ⟨rfl, rfl⟩⟩
  · refine .bind (Q := fun _ => J) (.modify fun r hr => hJ r _ hr.1 ?_) fun _ =>
      .pure fun _ hr => hr
    exact InstallTally.outcome_success.trans hr.2.symm

end Run

end DeviceLab
