import DeviceLab.Proofs.Starting
import DeviceLab.Proofs.Summing

/-! # The order of the backend calls

From its beginning to its end a run follows one protocol, whatever the backend answers, however the
suites end, and even if it breaks down.

* `Move.Later`: the moves that may be made when it is settled whether the devices are started.
* `Followed`: the moves of a run are those of a `Preparation`, and then only later ones.
* `startWithin_protocol`: the moves of every run are. -/

namespace DeviceLab

/-- The move may be made when it is settled whether the devices are `started`: teardown in any
case, and only if they have been started what is done with them and with the suites.  No attempt to
start them is made any more. -/
def Move.Later (started : Bool) : Move → Prop
  | .looked _ | .entered _ => True
  | .called c => c.kind = .teardown ∨ started = true ∧
      (c.kind = .startLogCapture ∨ c.kind = .install ∨ c.kind = .collectDiagnostics)
  | .attempted _ => False
  | _ => started = true

/-- Moves that belong to no phase may be made at any time. -/
theorem Move.later_of_none {m : Move} (h : m.phase? = none) (started : Bool) :
    m.Later started := by
  cases m with
  | looked cancelled => trivial
  | entered phase => trivial
  | _ => cases h

/-- The moves of the phases after the start. -/
theorem Move.later_of_fits {m : Move} {p : Phase} (h : m.Fits p)
    (hp : Phase.devicesStarting.rank < p.rank) : m.Later true := by
  cases m with
  | looked cancelled => trivial
  | entered phase => trivial
  | attempted attempt =>
      obtain rfl := h _ rfl
      exact absurd hp (by decide)
  | called c =>
      have hphase : c.kind.phase = p := h _ rfl
      rw [← hphase] at hp
      change c.kind = .teardown ∨ true = true ∧ _
      generalize c.kind = kind at hp ⊢
      revert hp
      cases kind <;> decide
  | _ => exact rfl

/-- Teardown is possible whether or not the devices have been started. -/
theorem Move.later_of_stopping {m : Move} (h : m.Fits .devicesStopped) (started : Bool) :
    m.Later started := by
  cases m with
  | looked cancelled => trivial
  | entered phase => trivial
  | called c =>
      have hphase : c.kind.phase = .devicesStopped := h _ rfl
      refine .inl ?_
      generalize c.kind = kind at hphase ⊢
      revert hphase
      cases kind <;> decide
  | _ => exact nomatch h _ rfl

namespace Run

variable {σ β κ : Type} {kept : Device → κ} {s : Setup σ β} {r r' : Run σ β} {started : Bool}

/-- The moves of a run are those of a preparation, and then only later ones. -/
def Followed (s : Setup σ β) (started : Bool) (r : Run σ β) : Prop :=
  ∃ front back, r.moves.toList = front ++ back ∧
    Preparation s.plan.config.boundDevices.length s.plan.timing.startup.maxAttempts started
      (front.filterMap Move.call?) ∧
    (∀ m ∈ front, m.Opening) ∧ ∀ m ∈ back, m.Later started

/-! ### Until the devices are started -/

/-- The calls that a run has made from its beginning, before any suite was touched. -/
def Opened (calls : List BackendCall) (r : Run σ β) : Prop :=
  r.calls = calls ∧ ∀ m ∈ r.moves.toList, m.Opening

theorem Opened.makes {calls more : List BackendCall} (h : Opened calls r) (h' : Makes more r r') :
    Opened (calls ++ more) r' := by
  obtain ⟨hcalls, hopening⟩ := h
  obtain ⟨new, hmoves, rfl, hnew⟩ := h'
  refine ⟨?_, fun m hm => ?_⟩
  · rw [Run.calls, hmoves, List.filterMap_append, ← hcalls, Run.calls]
  · rw [hmoves] at hm
    rcases List.mem_append.1 hm with hm | hm
    · exact hopening m hm
    · exact hnew m hm

/-- What has been done so far does not depend on the phase, nor on looks. -/
theorem Opened.steady {calls : List BackendCall} :
    Steady kept (Opened calls : Run σ β → Prop) := by
  refine ⟨fun r r' h hadds => ?_, fun _ _ h => h⟩
  obtain ⟨new, hnew, hnone⟩ := hadds.moves
  have hopening : ∀ m ∈ new, m.Opening := by
    intro m hm
    have hphase := hnone m hm
    cases m with
    | looked cancelled => trivial
    | entered phase => trivial
    | _ => cases hphase
  have hcalls : new.filterMap Move.call? = [] := by
    refine List.filterMap_eq_nil_iff.2 fun m hm => ?_
    have hphase := hnone m hm
    cases m with
    | called c => cases hphase
    | _ => rfl
  have hquiet : Makes [] r r' := ⟨new, hnew, hcalls, hopening⟩
  have hopened := h.makes hquiet
  rwa [List.append_nil] at hopened

theorem Opened.followed {calls : List BackendCall} (h : Opened calls r)
    (hcalls : Preparation s.plan.config.boundDevices.length s.plan.timing.startup.maxAttempts
      started calls) : Followed s started r := by
  refine ⟨r.moves.toList, [], (List.append_nil _).symm, ?_, h.2, fun m hm => nomatch hm⟩
  rw [← Run.calls, h.1]
  exact hcalls

/-! ### Afterwards -/

theorem Followed.robust {p : Move → Prop} (hp : ∀ m, p m → m.Later started) :
    Robust kept p (Followed s started : Run σ β → Prop) := by
  rintro r r' ⟨front, back, hmoves, hfront, hopening, hback⟩ hadds
  obtain ⟨new, hnew, hlater⟩ := hadds.moves
  refine ⟨front, back ++ new, ?_, hfront, hopening, fun m hm => ?_⟩
  · rw [hnew, hmoves, List.append_assoc]
  · rcases List.mem_append.1 hm with hm | hm
    · exact hback m hm
    · exact hp m (hlater m hm)

theorem Followed.steady : Steady kept (Followed s started : Run σ β → Prop) :=
  ⟨Followed.robust fun _ hm => Move.later_of_none hm started, fun _ _ h => h⟩

theorem Followed.abiding : Abiding (Followed s started : Run σ β → Prop) := by
  have hsteady : Steady (fun _ => ()) (Followed s started : Run σ β → Prop) := Followed.steady
  exact hsteady.abiding

theorem Followed.robust_phase {p : Phase} (hp : Phase.devicesStarting.rank < p.rank) :
    Robust kept (Move.Fits p) (Followed s true : Run σ β → Prop) :=
  Followed.robust fun _ hm => Move.later_of_fits hm hp

/-! ### The whole run -/

/-- The devices are acquired and started, or the run stops before that. -/
theorem execute_followed (passes : Nat) :
    Ends (fun r => r.devices = [] ∧ Opened [] r) (execute s passes) (fun _ => Followed s true)
      fun _ r => ∃ started, Followed s started r := by
  have hb := s.backend.keeps_nothing
  have hempty : Steady (fun _ => ()) fun r : Run σ β => r.devices = [] ∧ Opened [] r :=
    .and ⟨fun r r' h hadds => List.eq_nil_of_length_eq_zero (by rw [hadds.length_devices, h]; rfl),
      fun _ _ h => h⟩ Opened.steady
  refine .bind ((enter_keeps hempty _).weaken (fun _ _ h => h) fun _ r h =>
    ⟨false, h.2.followed .idle⟩) fun _ => ?_
  -- all devices are acquired, or none is started
  refine .bind (Q := fun _ r => r.devices.length = s.plan.config.boundDevices.length ∧ ∃ calls,
    Through (onEach .acquire s.plan.config.boundDevices.length) calls ∧ Opened calls r)
    (.of_eq fun r hr => (acquireDevices_makes r hr.1).weaken (fun _ r' h => ?_) fun _ r' h => ?_)
    fun _ => .of_eq fun r hr => ?_
  · obtain ⟨hlength, calls, hcalls, hmakes⟩ := h
    exact ⟨hlength, calls, hcalls, hr.2.makes hmakes⟩
  · obtain ⟨ending, calls, hcalls, hmakes⟩ := h
    exact ⟨false, (hr.2.makes hmakes).followed (.unacquired hcalls)⟩
  obtain ⟨hlength, acquires, hacquires, hopened⟩ := hr
  have hready : Steady (fun _ => ()) fun r : Run σ β =>
      r.devices.length = s.plan.config.boundDevices.length ∧ Opened acquires r :=
    .and ⟨fun r r' h hadds => hadds.length_devices.trans h, fun _ _ h => h⟩ Opened.steady
  have hgivenUp : Preparation s.plan.config.boundDevices.length
      s.plan.timing.startup.maxAttempts false (acquires ++ []) := .acquired hacquires (.given_up _)
  rw [List.append_nil] at hgivenUp
  refine .bind ((enter_keeps hready _).conseq (fun r' h => h ▸ ⟨hlength, hopened⟩)
    (fun _ _ h => h) fun _ r' h => ⟨false, h.2.followed hgivenUp⟩) fun _ => ?_
  -- the attempts to start them
  refine .bind (Q := fun _ => Followed s true)
    (.of_eq fun r hr => (startDevices_makes r hr.1).weaken (fun _ r' h => ?_) fun _ r' h => ?_)
    fun _ => ?_
  · obtain ⟨calls, hcalls, hmakes⟩ := h
    exact (hr.2.makes hmakes).followed (.acquired hacquires hcalls)
  · obtain ⟨calls, hcalls, hmakes⟩ := h
    exact ⟨false, (hr.2.makes hmakes).followed (.acquired hacquires hcalls)⟩
  have hsteady : Steady (fun _ => ()) (Followed s true : Run σ β → Prop) := Followed.steady
  have henter : ∀ target : Phase, Ends (Followed s true) (enter s target)
      (fun _ => Followed s true) fun _ r => ∃ started, Followed s started r := fun target =>
    (enter_keeps hsteady target).weaken (fun _ _ h => h) fun _ _ h => ⟨true, h⟩
  refine .bind (henter _) fun _ => ?_
  refine .bind (.lift (startLogCapture_keeps hb
    ((Followed.robust_phase (by decide)).mono fun _ h => h.fits))) fun _ => ?_
  refine .bind (henter _) fun _ => ?_
  refine .bind (.lift (installArtifacts_keeps hb
    ((Followed.robust_phase (by decide)).mono fun _ h => h.fits) fun _ _ h => h)) fun blocked => ?_
  refine .bind (henter _) fun _ => ?_
  refine .bind ((runSuites_keeps hb ⟨Followed.robust_phase (by decide), fun _ _ _ _ h => h⟩
    passes blocked).weaken (fun _ _ h => h) fun _ _ h => ⟨true, h⟩) fun _ => ?_
  exact henter _

/-- However a run stops, nothing but teardown is left to do. -/
theorem carryOut_followed (passes : Nat) :
    Ends (fun r => r.devices = [] ∧ Opened [] r) (carryOut s passes)
      (fun _ r => ∃ started, Followed s started r)
      fun _ r => ∃ started, Followed s started r := by
  refine carryOut_keeps s.backend.keeps_nothing ?_ ?_ (fun _ _ h => h)
    ((execute_followed passes).weaken (fun _ _ h => ⟨true, h⟩) fun _ _ h => h)
  · rintro r r' ⟨started, hr⟩ hadds
    exact ⟨started, Followed.robust (fun _ hm => Move.later_of_stopping (Move.In.fits hm) started)
      r r' hr hadds⟩
  · rintro r l target hrank ⟨started, hr⟩
    exact ⟨started, Followed.abiding r l target hrank hr⟩

/-- The moves of every run, however it ends, are in two parts.  The calls in `front` are those of a
`Preparation`: the devices are acquired in order up to the first that cannot be; if all have been,
attempts are made to start them, at most `maxAttempts`.  Each attempt launches all devices,
redirects them all and checks them all, up to the first step that fails; then every device is
aborted once, and after a failure that would come again no other attempt is made.  In `back` no
device is launched, redirected, checked or aborted any more; log captures, installations,
diagnostics and suites are only there if the run is `started`, that is if the last attempt has gone
through all its steps. -/
theorem startWithin_protocol (s : Setup σ β) (system : σ) (memory : β) (passes : Nat) :
    ∃ started front back,
      ((startWithin s passes).run (.fresh s.plan system memory)).2.moves.toList = front ++ back ∧
      Preparation s.plan.config.boundDevices.length s.plan.timing.startup.maxAttempts started
        (front.filterMap Move.call?) ∧
      (∀ m ∈ front, m.Opening) ∧ ∀ m ∈ back, m.Later started := by
  have hrobust : Robust id (fun _ => False) fun r : Run σ β => ∃ started, Followed s started r :=
    fun r r' ⟨started, hr⟩ hadds =>
      ⟨started, Followed.robust (fun _ h => h.elim) r r' hr hadds⟩
  have hopened : Robust id (fun _ => False) fun r : Run σ β => r.devices = [] ∧ Opened [] r :=
    fun r r' h hadds => ⟨hadds.devices_eq.trans h.1,
      Opened.steady.robust r r' h.2 (hadds.mono fun _ h => h.elim)⟩
  exact (startWithin_keeps hopened hrobust (carryOut_followed passes)).leads
    (.fresh s.plan system memory) ⟨rfl, rfl, fun _ hm => nomatch hm⟩

end Run

end DeviceLab
