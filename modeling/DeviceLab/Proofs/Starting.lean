import DeviceLab.Proofs.Devices

/-! # The calls that start the devices

The backend is asked for steps in a fixed order, device by device, and a step that fails is the last
one of its row.  What has been asked for is told as a list of calls, and each part of the beginning
of a run says which lists it may add.

* `Through`, `Breaks`: the calls follow a row of steps to its end, or up to the first that fails.
* `Startup`: the calls of all attempts to start the devices.
* `Preparation`: the calls from the beginning of a run until its devices have been started, or until
  it has stopped before.
* `acquireDevices_makes`, `startDevices_makes`: acquiring and starting the devices makes such
  calls. -/

namespace DeviceLab

/-- The kind of a step and the place of its device. -/
def BackendCall.spot (c : BackendCall) : CallKind × Nat := (c.kind, c.index)

/-- One step with each of the first devices, in their order. -/
def onEach (kind : CallKind) (n : Nat) : List (CallKind × Nat) := (List.range n).map (kind, ·)

/-- The steps of an attempt to start the first devices. -/
def attemptSteps (n : Nat) : List (CallKind × Nat) :=
  onEach .launch n ++ (onEach .redirect n ++ onEach .checkHealth n)

/-- All steps of a row have been asked for in order, and have succeeded. -/
structure Through (steps : List (CallKind × Nat)) (calls : List BackendCall) : Prop where
  spots : calls.map BackendCall.spot = steps
  done : ∀ c ∈ calls, c.result = .done

/-- The steps of a row have been asked for in order, up to the first that did not succeed. -/
structure Breaks (steps : List (CallKind × Nat)) (ending : CallResult)
    (calls : List BackendCall) : Prop where
  spots : calls.map BackendCall.spot <+: steps
  last : ∃ (before : List BackendCall) (last : BackendCall), calls = before ++ [last] ∧
    (∀ c ∈ before, c.result = .done) ∧ last.result = ending
  ending : ending ≠ .done

/-- The calls of the attempts to start `n` devices.  An attempt goes through all its steps, and
then the devices have been started; or it breaks, and then every device is aborted once.  After a
step that would fail again there is no other attempt. -/
inductive Startup (n : Nat) : Nat → Bool → List BackendCall → Prop where
  | given_up (budget : Nat) : Startup n budget false []
  | started {budget : Nat} {calls : List BackendCall} (h : Through (attemptSteps n) calls) :
      Startup n (budget + 1) true calls
  | hopeless {budget : Nat} {calls aborts : List BackendCall}
      (h : Breaks (attemptSteps n) .hopeless calls)
      (aborted : aborts.map BackendCall.spot = onEach .abortStart n) :
      Startup n (budget + 1) false (calls ++ aborts)
  | failed {budget : Nat} {started : Bool} {calls aborts rest : List BackendCall}
      (h : Breaks (attemptSteps n) .failed calls)
      (aborted : aborts.map BackendCall.spot = onEach .abortStart n)
      (next : Startup n budget started rest) :
      Startup n (budget + 1) started (calls ++ (aborts ++ rest))

/-- The calls until the devices have been started, or until the run has stopped before.  They are
only started when all of them have been acquired. -/
inductive Preparation (n budget : Nat) : Bool → List BackendCall → Prop where
  | idle : Preparation n budget false []
  | unacquired {ending : CallResult} {calls : List BackendCall}
      (h : Breaks (onEach .acquire n) ending calls) : Preparation n budget false calls
  | acquired {started : Bool} {calls rest : List BackendCall}
      (h : Through (onEach .acquire n) calls) (startup : Startup n budget started rest) :
      Preparation n budget started (calls ++ rest)

/-- The move may be made before the devices have been started. -/
def Move.Opening : Move → Prop
  | .looked _ | .entered _ | .called _ | .attempted _ => True
  | _ => False

section Rows

variable {a b : List (CallKind × Nat)} {x y : List BackendCall} {ending : CallResult}

theorem Through.nil : Through [] [] := ⟨rfl, nofun⟩

theorem Through.append (h : Through a x) (h' : Through b y) : Through (a ++ b) (x ++ y) := by
  refine ⟨by rw [List.map_append, h.spots, h'.spots], fun c hc => ?_⟩
  rcases List.mem_append.1 hc with hc | hc
  · exact h.done c hc
  · exact h'.done c hc

theorem Breaks.append (h : Breaks a ending x) : Breaks (a ++ b) ending x :=
  ⟨h.spots.trans (List.prefix_append a b), h.last, h.ending⟩

theorem Through.breaks (h : Through a x) (h' : Breaks b ending y) :
    Breaks (a ++ b) ending (x ++ y) := by
  obtain ⟨before, last, rfl, hbefore, hlast⟩ := h'.last
  refine ⟨?_, ⟨x ++ before, last, (List.append_assoc ..).symm, fun c hc => ?_, hlast⟩, h'.ending⟩
  · rw [List.map_append, h.spots]
    exact (List.prefix_append_right_inj a).2 h'.spots
  · rcases List.mem_append.1 hc with hc | hc
    · exact h.done c hc
    · exact hbefore c hc

theorem through_singleton {c : BackendCall} {spot : CallKind × Nat} (hc : c.spot = spot)
    (h : c.result = .done) : Through [spot] [c] :=
  ⟨congrArg (fun spot => [spot]) hc, fun _ hmem => List.mem_singleton.1 hmem ▸ h⟩

theorem breaks_singleton {c : BackendCall} {spot : CallKind × Nat} (hc : c.spot = spot)
    (h : c.result = ending) (hending : ending ≠ .done) : Breaks [spot] ending [c] := by
  subst hc
  exact ⟨List.prefix_rfl, ⟨[], c, rfl, nofun, h⟩, hending⟩

end Rows

/-- How a step that failed has ended. -/
def DeviceError.ending (e : DeviceError) : CallResult := .ofDevice (.error e : Except _ Unit)

theorem DeviceError.ending_eq (e : DeviceError) :
    e.ending = if e.isFatal then .hopeless else .failed := rfl

theorem DeviceError.ending_ne (e : DeviceError) : e.ending ≠ .done := by
  rw [ending_eq]
  split
  · exact CallResult.noConfusion
  · exact CallResult.noConfusion

namespace Run

variable {σ β κ α : Type} {kept : Device → κ} {s : Setup σ β} {r r' r'' : Run σ β}
  {calls more : List BackendCall} {n : Nat}

/-! ### The calls that are added -/

/-- From the first state to the second one these calls have been made, and no suite was touched. -/
def Makes (calls : List BackendCall) (r r' : Run σ β) : Prop :=
  ∃ new, r'.moves.toList = r.moves.toList ++ new ∧ new.filterMap Move.call? = calls ∧
    ∀ m ∈ new, m.Opening

theorem Makes.refl (r : Run σ β) : Makes [] r r :=
  ⟨[], (List.append_nil _).symm, rfl, fun _ hm => absurd hm List.not_mem_nil⟩

theorem Makes.trans (h : Makes calls r r') (h' : Makes more r' r'') :
    Makes (calls ++ more) r r'' := by
  obtain ⟨new, hmoves, rfl, hnew⟩ := h
  obtain ⟨new', hmoves', rfl, hnew'⟩ := h'
  refine ⟨new ++ new', ?_, List.filterMap_append .., fun m hm => ?_⟩
  · rw [hmoves', hmoves, List.append_assoc]
  · rcases List.mem_append.1 hm with hm | hm
    · exact hnew m hm
    · exact hnew' m hm

theorem Makes.of_push {m : Move} (h : r'.moves = r.moves.push m) (hm : m.Opening) :
    Makes m.call?.toList r r' := by
  refine ⟨[m], by rw [h, Array.toList_push], ?_, fun m' hm' => List.mem_singleton.1 hm' ▸ hm⟩
  cases m <;> rfl

/-- Moves that are not calls do not matter. -/
theorem Makes.robust :
    Robust kept (fun m => m.Opening ∧ m.call? = none) (Makes calls r : Run σ β → Prop) := by
  intro r₁ r₂ h hadds
  obtain ⟨new, hnew, hp⟩ := hadds.moves
  have hnone : new.filterMap Move.call? = [] :=
    List.filterMap_eq_nil_iff.2 fun m hm => (hp m hm).2
  have hquiet : Makes [] r₁ r₂ := ⟨new, hnew, hnone, fun m hm => (hp m hm).1⟩
  have hmore := h.trans hquiet
  rwa [List.append_nil] at hmore

/-! ### Rows of steps -/

/-- With that many devices, the operation follows a row of steps, up to the first that fails. -/
def Asks (n : Nat) (steps : List (CallKind × Nat))
    (x : ExceptT DeviceError (StateM (Run σ β)) Unit) : Prop :=
  ∀ r : Run σ β, r.devices.length = n → Ends (· = r) x
    (fun _ r' => r'.devices.length = n ∧ ∃ calls, Through steps calls ∧ Makes calls r r')
    fun e r' => r'.devices.length = n ∧ ∃ calls,
      Breaks steps e.ending calls ∧ Makes calls r r'

theorem Asks.nil : Asks n [] (pure () : ExceptT DeviceError (StateM (Run σ β)) Unit) :=
  fun r hr => .pure fun _ h => by
    subst h
    exact ⟨hr, [], .nil, .refl _⟩

theorem Asks.bind {a b : List (CallKind × Nat)}
    {x y : ExceptT DeviceError (StateM (Run σ β)) Unit} (hx : Asks n a x) (hy : Asks n b y) :
    Asks n (a ++ b) (x >>= fun _ => y) := by
  intro r hr
  refine .bind ((hx r hr).weaken (fun _ _ h => h) fun e r' h => ?_) fun _ => .of_eq fun r₁ h₁ => ?_
  · obtain ⟨hlength, calls, hcalls, hmakes⟩ := h
    exact ⟨hlength, calls, hcalls.append, hmakes⟩
  · obtain ⟨hlength, calls, hcalls, hmakes⟩ := h₁
    refine (hy r₁ hlength).weaken (fun _ r₂ h₂ => ?_) fun e r₂ h₂ => ?_
    · obtain ⟨hlength₂, more, hmore, hmakes₂⟩ := h₂
      exact ⟨hlength₂, calls ++ more, hcalls.append hmore, hmakes.trans hmakes₂⟩
    · obtain ⟨hlength₂, more, hmore, hmakes₂⟩ := h₂
      exact ⟨hlength₂, calls ++ more, hcalls.breaks hmore, hmakes.trans hmakes₂⟩

/-- A step with a device that there is makes one call. -/
theorem perform_makes {kind : CallKind} {package : Option String} {ending : α → CallResult}
    {step : StateM (Station σ β) α} {index : Nat} (r : Run σ β) (hlt : index < r.devices.length) :
    Leads (· = r) (perform kind package ending step index) fun result r' =>
      ∃ a c, result = some a ∧ c.spot = (kind, index) ∧ c.result = ending a ∧
        r'.devices.length = r.devices.length ∧ Makes [c] r r' := by
  have hstep : ∀ t, Function.const Device () (step.run t).2.device =
      Function.const Device () t.device := fun _ => rfl
  refine (perform_spec hstep index r).weaken fun result r' h => ?_
  cases result with
  | none => exact absurd hlt (Nat.not_lt_of_le h.2)
  | some a =>
      obtain ⟨c, hkind, hindex, hresult, hdone⟩ := h
      refine ⟨a, c, rfl, ?_, hresult, hdone.adds.length_devices, ?_⟩
      · rw [BackendCall.spot, hkind, hindex]
      · exact .of_push (m := .called c) hdone.moves trivial

/-- One step with one device. -/
theorem performStep_asks {kind : CallKind} {step : DeviceStep σ β DeviceError Unit} {index : Nat}
    (hlt : index < n) : Asks n [(kind, index)] (performStep kind step index) := by
  intro r hr
  refine .bind (.lift (perform_makes r (hr ▸ hlt))) fun result => .of_eq fun r₁ h₁ => ?_
  obtain ⟨result, c, rfl, hspot, hresult, hlength, hmakes⟩ := h₁
  cases result with
  | ok _ =>
      refine .pure fun r₂ h₂ => ?_
      subst h₂
      exact ⟨hlength.trans hr, [c], through_singleton hspot hresult, hmakes⟩
  | error e =>
      refine .throw fun r₂ h₂ => ?_
      subst h₂
      exact ⟨hlength.trans hr, [c], breaks_singleton hspot hresult e.ending_ne, hmakes⟩

/-- One step with each of some devices. -/
theorem forM_asks {kind : CallKind} {step : DeviceStep σ β DeviceError Unit} {indices : List Nat}
    (hlt : ∀ i ∈ indices, i < n) :
    Asks n (indices.map (kind, ·)) (indices.forM (performStep kind step)) := by
  induction indices with
  | nil => exact .nil
  | cons index rest ih =>
      exact .bind (a := [(kind, index)]) (performStep_asks (hlt index (List.mem_cons_self ..)))
        (ih fun i hi => hlt i (List.mem_cons_of_mem _ hi))

theorem startAttempt_asks : Asks n (attemptSteps n) (startAttempt s) := by
  intro r hr
  refine .bind (Q := fun run r' => run = r ∧ r' = r) (.get fun _ h => ⟨h, h⟩) fun run => ?_
  refine .of_eq fun r' hr' => ?_
  obtain ⟨rfl, rfl⟩ := hr'
  have hindices : r'.indices = List.range n := by rw [indices, hr]
  have hlt : ∀ i ∈ List.range n, i < n := fun i hi => List.mem_range.1 hi
  rw [hindices]
  exact ((forM_asks hlt).bind ((forM_asks hlt).bind (forM_asks hlt))) r' hr

theorem forM_aborts (indices : List Nat) (r : Run σ β) (hlt : ∀ i ∈ indices, i < r.devices.length) :
    Leads (· = r) (indices.forM (performPlain .abortStart s.backend.abortStart)) fun _ r' =>
      r'.devices.length = r.devices.length ∧ ∃ aborts,
        aborts.map BackendCall.spot = indices.map (.abortStart, ·) ∧ Makes aborts r r' := by
  induction indices generalizing r with
  | nil =>
      refine .pure fun r' h => ?_
      subst h
      exact ⟨rfl, [], rfl, .refl r'⟩
  | cons index rest ih =>
      refine .bind (Q := fun _ r₁ => r₁.devices.length = r.devices.length ∧
        ∃ c, c.spot = (.abortStart, index) ∧ Makes [c] r r₁) ?_ fun _ => .of_eq fun r₁ h₁ => ?_
      · refine .discard ((perform_makes r (hlt index (List.mem_cons_self ..))).weaken
          fun result r₁ h₁ => ?_)
        obtain ⟨-, c, -, hspot, -, hlength, hmakes⟩ := h₁
        exact ⟨hlength, c, hspot, hmakes⟩
      obtain ⟨hlength, c, hspot, hmakes⟩ := h₁
      refine (ih r₁ fun i hi => hlength ▸ hlt i (List.mem_cons_of_mem _ hi)).weaken fun _ r₂ h₂ => ?_
      obtain ⟨hlength₂, aborts, hspots, hmakes₂⟩ := h₂
      refine ⟨hlength₂.trans hlength, c :: aborts, ?_, hmakes.trans hmakes₂⟩
      rw [List.map_cons, List.map_cons, hspots, hspot]

/-- Every device is aborted once, in order. -/
theorem abortAttempt_makes (r : Run σ β) :
    Leads (· = r) (abortAttempt s) fun _ r' => r'.devices.length = r.devices.length ∧
      ∃ aborts, aborts.map BackendCall.spot = onEach .abortStart r.devices.length ∧
        Makes aborts r r' := by
  refine .bind (Q := fun run r' => run = r ∧ r' = r) (.get fun _ h => ⟨h, h⟩) fun run => ?_
  refine .of_eq fun r' hr' => ?_
  obtain ⟨rfl, rfl⟩ := hr'
  exact forM_aborts r'.indices r' fun i hi => List.mem_range.1 hi

/-! ### All attempts -/

/-- The calls of an attempt, as they have to be for what it has led to. -/
def Attempted (n : Nat) (r : Run σ β) (result : Except DeviceError Unit) (r' : Run σ β) : Prop :=
  r'.devices.length = n ∧ ∃ calls, Makes calls r r' ∧ match result with
    | .ok _ => Through (attemptSteps n) calls
    | .error e => Breaks (attemptSteps n) e.ending calls

theorem startAttempt_attempted (r : Run σ β) (hr : r.devices.length = n) :
    Leads (· = r) (startAttempt s).run (Attempted n r) := by
  refine .attempt ((startAttempt_asks r hr).weaken (fun _ r' h => ?_) fun e r' h => ?_)
  all_goals
    obtain ⟨hlength, calls, hcalls, hmakes⟩ := h
    exact ⟨hlength, calls, hmakes, hcalls⟩

/-- One attempt, with the end of whatever it has started if it fails. -/
theorem startOnce_makes (attempt : Nat) (r : Run σ β) (hr : r.devices.length = n) :
    Leads (· = r) (startOnce s attempt) fun result r' => r'.devices.length = n ∧
      ∃ calls, Makes calls r r' ∧ match result with
        | .ok _ => Through (attemptSteps n) calls
        | .error e => ∃ broken aborts, calls = broken ++ aborts ∧
            Breaks (attemptSteps n) e.ending broken ∧
            aborts.map BackendCall.spot = onEach .abortStart n := by
  refine .bind (Q := fun _ r₁ => r₁.devices.length = n ∧ Makes [] r r₁)
    (.modify fun r₁ h₁ => ?_) fun _ => .of_eq fun r₁ h₁ => ?_
  · subst h₁
    exact ⟨hr, .of_push (m := .attempted attempt) rfl trivial⟩
  obtain ⟨hlength, hbegun⟩ := h₁
  refine .bind (startAttempt_attempted r₁ hlength) fun result => .of_eq fun r₂ h₂ => ?_
  obtain ⟨hlength₂, calls, hmakes, hcalls⟩ := h₂
  have hmade : Makes calls r r₂ := hbegun.trans hmakes
  cases result with
  | ok _ =>
      refine .pure fun r₃ h₃ => ?_
      subst h₃
      exact ⟨hlength₂, calls, hmade, hcalls⟩
  | error e =>
      refine .bind (abortAttempt_makes r₂) fun _ => .pure fun r₃ h₃ => ?_
      obtain ⟨hlength₃, aborts, haborts, hmakes₃⟩ := h₃
      rw [hlength₂] at hlength₃ haborts
      exact ⟨hlength₃, calls ++ aborts, hmade.trans hmakes₃, calls, aborts, rfl, hcalls, haborts⟩

/-- A wait makes no calls. -/
theorem sleep_makes {host : Host σ} (d : Duration) (r : Run σ β) :
    Upholds (fun r' => r'.devices.length = r.devices.length ∧ Makes [] r r')
      (sleep host d : Running σ β Bool) := by
  have hrobust : Robust (fun _ => ()) (fun m => m.Opening ∧ m.call? = none)
      fun r' : Run σ β => r'.devices.length = r.devices.length ∧ Makes [] r r' :=
    fun r' r'' h hadds => ⟨hadds.length_devices.trans h.1, Makes.robust r' r'' h.2 hadds⟩
  exact (sleep_keeps hrobust host (fun _ => ⟨trivial, rfl⟩) d).weaken (fun _ _ h => h)
    fun _ _ h => h.2

/-- The calls of an attempt that fails, but not for good. -/
theorem startOnce_fails {attempt : Nat} {e : DeviceError} (hr : r.devices.length = n)
    (hfails : (startOnce s attempt).run r = (.error e, r')) (hmild : e.isFatal = false) :
    r'.devices.length = n ∧ ∃ calls aborts, Makes (calls ++ aborts) r r' ∧
      Breaks (attemptSteps n) .failed calls ∧
      aborts.map BackendCall.spot = onEach .abortStart n := by
  obtain ⟨hlength, _, hmade, calls, aborts, rfl, hcalls, haborts⟩ :=
    (startOnce_makes attempt r hr).result rfl hfails
  rw [DeviceError.ending_eq, hmild] at hcalls
  exact ⟨hlength, calls, aborts, hmade, hcalls, haborts⟩

/-- The calls of a row of attempts that fail are the beginning of a startup. -/
theorem Restarts.makes {first : Nat} {errors : List DeviceError}
    (hrow : Restarts s first r errors r') (hr : r.devices.length = n) :
    r'.devices.length = n ∧ ∃ calls, Makes calls r r' ∧ ∀ budget started rest,
      Startup n budget started rest → Startup n (errors.length + budget) started (calls ++ rest) := by
  induction errors generalizing first r with
  | nil =>
      cases hrow.failed
      exact ⟨hr, [], .refl _, fun budget started rest h => by simpa using h⟩
  | cons e errors ih =>
      obtain ⟨r₁, r₂, hfails, hmild, hslept, hrest⟩ := hrow.uncons
      obtain ⟨hlength₁, calls, aborts, hmakes, hcalls, haborts⟩ := startOnce_fails hr hfails hmild
      obtain ⟨hlength₂, hwait⟩ := Ends.ok (sleep_makes _ r₁) ⟨rfl, .refl r₁⟩ hslept
      obtain ⟨hlength, more, hmore, hstartup⟩ := ih hrest (hlength₂.trans hlength₁)
      refine ⟨hlength, calls ++ aborts ++ more, ?_, fun budget started rest h => ?_⟩
      · have hmade := (hmakes.trans hwait).trans hmore
        rwa [List.append_nil] at hmade
      · have hnext := Startup.failed hcalls haborts (hstartup budget started rest h)
        rw [List.length_cons, Nat.add_right_comm, List.append_assoc, List.append_assoc]
        exact hnext

/-- However the attempts go, their calls are those of a startup. -/
theorem startDevices_makes (r : Run σ β) (hr : r.devices.length = n) :
    Ends (· = r) (startDevices s)
      (fun _ r' => ∃ calls,
        Startup n s.plan.timing.startup.maxAttempts true calls ∧ Makes calls r r')
      fun _ r' => ∃ calls,
        Startup n s.plan.timing.startup.maxAttempts false calls ∧ Makes calls r r' := by
  -- the attempts before the last one, and what may come of that
  have hlast : ∀ {errors : List DeviceError} {r₁ r' : Run σ β} {started : Bool}
      {calls : List BackendCall}, Restarts s 1 r errors r₁ →
      (∀ budget, Startup n (budget + 1) started calls) → Makes calls r₁ r' →
        ∃ calls, Startup n s.plan.timing.startup.maxAttempts started calls ∧ Makes calls r r' := by
    intro errors r₁ r' started calls hrow hstartup hmakes
    obtain ⟨-, front, hfront, hall⟩ := hrow.makes hr
    refine ⟨front ++ calls, ?_, hfront.trans hmakes⟩
    have hallowed := hrow.allowed
    have hcount := hall _ started calls
      (hstartup (s.plan.timing.startup.maxAttempts - (1 + errors.length)))
    rwa [show errors.length + (s.plan.timing.startup.maxAttempts - (1 + errors.length) + 1) =
      s.plan.timing.startup.maxAttempts by omega] at hcount
  have hgivenUp : ∀ {errors : List DeviceError} {e : DeviceError} {r₁ r₂ r' : Run σ β},
      Restarts s 1 r errors r₁ → (startOnce s (1 + errors.length)).run r₁ = (.error e, r₂) →
      e.isFatal = false → Makes [] r₂ r' →
        ∃ calls, Startup n s.plan.timing.startup.maxAttempts false calls ∧ Makes calls r r' := by
    intro errors e r₁ r₂ r' hrow hfails hmild hrest
    obtain ⟨-, calls, aborts, hmakes, hcalls, haborts⟩ :=
      startOnce_fails (hrow.makes hr).1 hfails hmild
    refine hlast hrow (fun budget => .failed hcalls haborts (.given_up budget)) ?_
    rw [List.append_nil, ← List.append_nil (calls ++ aborts)]
    exact hmakes.trans hrest
  have hends : ∀ ending, Starts s 1 r ending → ∃ calls,
      Startup n s.plan.timing.startup.maxAttempts ending.1.isOk calls ∧
        Makes calls r ending.2 := by
    intro ending h
    cases h with
    | @settled errors last r₁ r₂ hrow hlastOnce hmild =>
        cases last with
        | ok _ =>
            obtain ⟨-, calls, hmade, hcalls⟩ :=
              (startOnce_makes _ r₁ (hrow.makes hr).1).result rfl hlastOnce
            exact hlast hrow (fun budget => .started hcalls) hmade
        | error e => exact hgivenUp hrow hlastOnce (hmild e rfl) (.refl _)
    | @hopeless errors e r₁ r₂ hrow hlastOnce hfatal =>
        obtain ⟨-, _, hmade, calls, aborts, rfl, hcalls, haborts⟩ :=
          (startOnce_makes _ r₁ (hrow.makes hr).1).result rfl hlastOnce
        rw [DeviceError.ending_eq, hfatal] at hcalls
        exact hlast hrow (fun budget => .hopeless hcalls haborts) hmade
    | @cancelled errors e r₁ r₂ r₃ hrow hlastOnce hmild hslept =>
        have hwaited := Ends.ok (sleep_makes _ r₂) ⟨rfl, .refl r₂⟩ hslept
        exact hgivenUp hrow hlastOnce hmild hwaited.2
    | @overlong errors e r₁ r₂ hrow hlastOnce hmild hclock =>
        have hwaited := Ends.error (sleep_makes _ r₂) ⟨rfl, .refl r₂⟩ (sleep_overlong hclock)
        exact hgivenUp hrow hlastOnce hmild hwaited.2
  have hpos := s.plan.timing.startup.attempts_pos
  exact (startFrom_starts (s := s) (s.plan.timing.startup.maxAttempts - 1) 1 r (by omega)).weaken
    (fun _ _ h => hends _ h) fun _ _ h => hends _ h

/-! ### Acquiring -/

theorem acquireOne_makes (index : Nat) (slot : DeviceSlot) (r : Run σ β)
    (hr : r.devices.length = index) :
    Ends (· = r) (acquireOne s index slot)
      (fun _ r' => r'.devices.length = index + 1 ∧
        ∃ calls, Through [(.acquire, index)] calls ∧ Makes calls r r')
      fun _ r' => ∃ ending calls, Breaks [(.acquire, index)] ending calls ∧ Makes calls r r' := by
  refine .bind (Q := fun run r' => run = r ∧ r' = r) (.get fun _ h => ⟨h, h⟩) fun run => ?_
  refine .of_eq fun r' hr' => ?_
  obtain ⟨rfl, rfl⟩ := hr'
  dsimp only
  generalize s.backend.acquire.run _ = outcome
  obtain ⟨result, station⟩ := outcome
  refine .bind (Q := fun _ r₁ => r₁.devices = r'.devices ∧ r₁.moves =
    r'.moves.push (.called ⟨.acquire, index, slot.name, none, .ofDevice result⟩))
    (.set fun _ _ => ⟨rfl, rfl⟩) fun _ => ?_
  have hmakes : ∀ (c : BackendCall) (r₁ : Run σ β),
      r₁.moves = r'.moves.push (.called c) → Makes [c] r' r₁ := fun c r₁ h => .of_push h trivial
  cases result with
  | ok _ =>
      refine .modify fun r₁ h₁ => ?_
      exact ⟨by simp [h₁.1, hr], [_], through_singleton rfl rfl, hmakes _ _ h₁.2⟩
  | error e =>
      refine .throw fun r₁ h₁ => ?_
      exact ⟨e.ending, [_], breaks_singleton rfl rfl e.ending_ne, hmakes _ _ h₁.2⟩

theorem acquireFrom_makes (slots : List DeviceSlot) (index : Nat) (r : Run σ β)
    (hr : r.devices.length = index) :
    Ends (· = r) (acquireFrom s index slots)
      (fun _ r' => r'.devices.length = index + slots.length ∧ ∃ calls,
        Through ((List.range' index slots.length).map (CallKind.acquire, ·)) calls ∧
          Makes calls r r')
      fun _ r' => ∃ ending calls,
        Breaks ((List.range' index slots.length).map (CallKind.acquire, ·)) ending calls ∧
          Makes calls r r' := by
  induction slots generalizing index r with
  | nil =>
      refine .pure fun r' h => ?_
      subst h
      exact ⟨hr, [], .nil, .refl r'⟩
  | cons slot rest ih =>
      have hsteps : (List.range' index (slot :: rest).length).map (CallKind.acquire, ·) =
          [(CallKind.acquire, index)] ++
            (List.range' (index + 1) rest.length).map (CallKind.acquire, ·) := by
        rw [List.length_cons, List.range'_succ]
        rfl
      rw [hsteps]
      refine .bind ((acquireOne_makes index slot r hr).weaken (fun _ _ h => h) fun _ r' h => ?_)
        fun _ => .of_eq fun r₁ h₁ => ?_
      · obtain ⟨ending, calls, hcalls, hmakes⟩ := h
        exact ⟨ending, calls, hcalls.append, hmakes⟩
      obtain ⟨hlength, calls, hcalls, hmakes⟩ := h₁
      refine (ih (index + 1) r₁ hlength).weaken (fun _ r' h => ?_) fun _ r' h => ?_
      · obtain ⟨hlength', more, hmore, hmakes'⟩ := h
        refine ⟨?_, calls ++ more, hcalls.append hmore, hmakes.trans hmakes'⟩
        rw [hlength', List.length_cons]
        omega
      · obtain ⟨ending, more, hmore, hmakes'⟩ := h
        exact ⟨ending, calls ++ more, hcalls.breaks hmore, hmakes.trans hmakes'⟩

/-- The devices are acquired in their order, up to the first that is not. -/
theorem acquireDevices_makes (r : Run σ β) (hr : r.devices = []) :
    Ends (· = r) (acquireDevices s)
      (fun _ r' => r'.devices.length = s.plan.config.boundDevices.length ∧ ∃ calls,
        Through (onEach .acquire s.plan.config.boundDevices.length) calls ∧ Makes calls r r')
      fun _ r' => ∃ ending calls,
        Breaks (onEach .acquire s.plan.config.boundDevices.length) ending calls ∧
          Makes calls r r' := by
  have hspec := acquireFrom_makes (s := s) s.plan.config.boundDevices 0 r (by rw [hr]; rfl)
  rwa [← List.range_eq_range', Nat.zero_add] at hspec

end Run

end DeviceLab
