import DeviceLab.Console.Connect
import DeviceLab.Proofs.Frame
import DeviceLab.Proofs.SmallLab

/-! # How often an operation is tried

An operation that is tried again after each failure goes through a row of setbacks: attempts that
fail, numbered one after the other, each followed by a wait (`Setbacks`).  A policy ends such a row
in one of two ways (`RetryPolicy.Tried`): an attempt succeeds that the policy allows, or the last
one that it allows fails as well.  So the attempts are numbered `1, 2, …` up to the first success or
the ceiling, the waits are those of the schedule, one between each two attempts, and the error tells
the ceiling (`runFrom_tried`).  The wrappers for consoles and agents rebuild the error and keep the
number.

The devices of a run are started over by a loop of its own.  `Starts` tells the ways that the loop
may go: it also ends when an attempt fails for good, when the run is cancelled, and when the clock
ends before a wait.  Where none of these happens it goes as a policy that is told the same results
(`RetryPolicy.rehearse`, `startDevices_rehearsed`). -/

namespace DeviceLab

variable {S ε α : Type}

/-- The waits after attempts that fail: `count` of them, from the attempt number `first` on. -/
def Backoff.schedule (b : Backoff) (first count : Nat) : List Duration :=
  (List.range' first count).map b.delayForRetry

theorem Backoff.schedule_succ (b : Backoff) (first count : Nat) :
    b.schedule first (count + 1) = b.delayForRetry first :: b.schedule (first + 1) count := by
  rw [schedule, List.range'_succ, List.map_cons, schedule]

theorem Backoff.length_schedule (b : Backoff) (first count : Nat) :
    (b.schedule first count).length = count := by
  rw [schedule, List.length_map, List.length_range']

theorem Backoff.schedule_fixed (delay : Duration) (first count : Nat) :
    (Backoff.fixed delay).schedule first count = List.replicate count delay := by
  induction count generalizing first with
  | zero => rfl
  | succ count ih =>
      rw [schedule_succ, ih, List.replicate_succ]
      rfl

/-- The first wait of a growing backoff is the one before the second attempt; the other one is there
each later time. -/
theorem Backoff.schedule_escalating (first subsequent : Duration) (count : Nat) :
    (Backoff.escalating first subsequent).schedule 1 (count + 1) =
      first :: List.replicate count subsequent := by
  have hlater : ∀ k, 1 < k →
      (Backoff.escalating first subsequent).schedule k count = List.replicate count subsequent := by
    induction count with
    | zero =>
        intro k _
        rfl
    | succ count ih =>
        intro k hk
        have hwait : (Backoff.escalating first subsequent).delayForRetry k = subsequent := by
          rw [delayForRetry, if_neg (by omega)]
        rw [schedule_succ, hwait, ih (k + 1) (by omega), List.replicate_succ]
  rw [schedule_succ, hlater 2 (by omega)]
  rfl

/-- A row of attempts that fail, from the attempt number on, each followed by a wait: the errors and
the waits. -/
inductive Setbacks (op : Nat → StateM S (Except ε α)) (wait : Duration → S → S → Prop) :
    Nat → S → List ε → List Duration → S → Prop
  | none (k : Nat) (s : S) : Setbacks op wait k s [] [] s
  | again {k : Nat} {s s₁ s₂ s₃ : S} {e : ε} {d : Duration} {errors : List ε}
      {waits : List Duration} (hfails : (op k).run s = (.error e, s₁)) (hwait : wait d s₁ s₂)
      (hrest : Setbacks op wait (k + 1) s₂ errors waits s₃) :
      Setbacks op wait k s (e :: errors) (d :: waits) s₃

namespace RetryPolicy

/-- A wait that an operation carries out. -/
def Slept (sleep : Duration → StateM S Unit) (d : Duration) (s s' : S) : Prop :=
  ((sleep d).run s).2 = s'

/-- What a policy with so many attempts may lead to, from the attempt number on: a row of setbacks,
and then a success or, if no attempt is left, the last failure. -/
inductive Tried (backoff : Backoff) (most : Nat) (sleep : Duration → StateM S Unit)
    (op : Nat → StateM S (Except ε α)) (first : Nat) (s : S) :
    Except (RetryExhausted ε) α → S → Prop
  | succeeded {errors : List ε} {s₁ s' : S} {a : α} (hallowed : first + errors.length ≤ most)
      (hfailed : Setbacks op (Slept sleep) first s errors
        (backoff.schedule first errors.length) s₁)
      (hlast : (op (first + errors.length)).run s₁ = (.ok a, s')) :
      Tried backoff most sleep op first s (.ok a) s'
  | exhausted {errors : List ε} {s₁ s' : S} {e : ε} (hspent : first + errors.length = most)
      (hfailed : Setbacks op (Slept sleep) first s errors
        (backoff.schedule first errors.length) s₁)
      (hlast : (op most).run s₁ = (.error e, s')) :
      Tried backoff most sleep op first s (.error ⟨most, e⟩) s'

variable {backoff : Backoff} {most first : Nat} {sleep : Duration → StateM S Unit}
  {op : Nat → StateM S (Except ε α)} {s s₁ s₂ s' : S}

/-- One more setback in front. -/
theorem Tried.again {e : ε} {outcome : Except (RetryExhausted ε) α}
    (hfails : (op first).run s = (.error e, s₁))
    (hwait : Slept sleep (backoff.delayForRetry first) s₁ s₂)
    (hrest : Tried backoff most sleep op (first + 1) s₂ outcome s') :
    Tried backoff most sleep op first s outcome s' := by
  have hlength : ∀ errors : List ε, first + 1 + errors.length = first + (e :: errors).length := by
    intro errors
    rw [List.length_cons]
    omega
  have hlonger : ∀ {errors : List ε} {s₃ : S},
      Setbacks op (Slept sleep) (first + 1) s₂ errors
        (backoff.schedule (first + 1) errors.length) s₃ →
      Setbacks op (Slept sleep) first s (e :: errors)
        (backoff.schedule first (e :: errors).length) s₃ := by
    intro errors s₃ hfailed
    rw [List.length_cons, Backoff.schedule_succ]
    exact .again hfails hwait hfailed
  cases hrest with
  | succeeded hallowed hfailed hlast =>
      rw [hlength] at hallowed hlast
      exact .succeeded hallowed (hlonger hfailed) hlast
  | exhausted hspent hfailed hlast =>
      rw [hlength] at hspent
      exact .exhausted hspent (hlonger hfailed) hlast

/-- What the attempts lead to that are left to a policy, by induction on their number. -/
theorem runFrom_tried (backoff : Backoff) (sleep : Duration → StateM S Unit)
    (op : Nat → StateM S (Except ε α)) (remaining first : Nat) (s : S) :
    Tried backoff (first + remaining) sleep op first s
      ((runFrom backoff sleep op remaining first).run s).1
      ((runFrom backoff sleep op remaining first).run s).2 := by
  induction remaining generalizing first s with
  | zero =>
      have hnone : Setbacks op (Slept sleep) first s [] [] s := .none first s
      rw [runFrom.eq_def, StateT.run_bind]
      cases hop : (op first).run s with
      | mk result s₁ =>
          cases result with
          | ok a => exact .succeeded (by simp) hnone hop
          | error e => exact .exhausted rfl hnone hop
  | succ remaining ih =>
      have hnone : Setbacks op (Slept sleep) first s [] [] s := .none first s
      rw [runFrom.eq_def, StateT.run_bind]
      cases hop : (op first).run s with
      | mk result s₁ =>
          cases result with
          | ok a => exact .succeeded (by simp) hnone hop
          | error e =>
              have hrest := ih (first + 1) ((sleep (backoff.delayForRetry first)).run s₁).2
              rw [Nat.add_right_comm, Nat.add_assoc] at hrest
              exact .again hop rfl hrest

/-- What a policy leads to: the attempts are numbered from one. -/
theorem run_tried (policy : RetryPolicy) (sleep : Duration → StateM S Unit)
    (op : Nat → StateM S (Except ε α)) (s : S) :
    Tried policy.backoff policy.maxAttempts sleep op 1 s ((policy.run sleep op).run s).1
      ((policy.run sleep op).run s).2 := by
  have h := runFrom_tried policy.backoff sleep op (policy.maxAttempts - 1) 1 s
  have hpos := policy.attempts_pos
  rwa [show 1 + (policy.maxAttempts - 1) = policy.maxAttempts by omega] at h

/-- An error that is rebuilt from the last one is given the ceiling for the number of attempts. -/
theorem run_rebuilt {ε' : Type} (policy : RetryPolicy) (sleep : Duration → StateM S Unit)
    (op : Nat → StateM S (Except ε α)) (rebuild : RetryExhausted ε → ε') (s : S) :
    ∃ outcome s', Tried policy.backoff policy.maxAttempts sleep op 1 s outcome s' ∧
      (Except.mapError rebuild <$> policy.run sleep op).run s =
        (outcome.mapError fun spent => rebuild ⟨policy.maxAttempts, spent.last⟩, s') := by
  have htried := policy.run_tried sleep op s
  refine ⟨_, _, htried, ?_⟩
  change (((policy.run sleep op).run s).1.mapError rebuild, ((policy.run sleep op).run s).2) = _
  generalize ((policy.run sleep op).run s).1 = outcome at htried ⊢
  cases htried <;> rfl

end RetryPolicy

/-! ### Consoles and agents -/

section Lab

variable {σ : Type} (policy : RetryPolicy) (host : Host σ) (address : String) (port : Nat)

/-- One attempt to connect, with its lines in the log. -/
def Lab.connectAttempt (limit : Duration) : StateM (Lab σ) (Except ConnectError Unit) := do
  note .info "connecting"
  match ← connectOnce host address port limit with
  | .ok () => return .ok ()
  | .error e =>
    note .info "connect attempt failed"
    return .error e

/-- The error of a connection, from that of the policy. -/
def ConnectError.ofSpent (spent : RetryExhausted ConnectError) : ConnectError :=
  { spent.last with attempts := spent.attempts }

/-- The error of a look for the prompt, from that of the policy. -/
def AgentError.ofSpent (spent : RetryExhausted AgentError) : AgentError :=
  match spent.last with
  | .connect e => .connect (.ofSpent ⟨spent.attempts, e⟩)
  | .noPrompt _ _ got => .noPrompt port spent.attempts got

theorem Lab.connect_eq (limit : Duration) : connect host address port limit policy =
    Except.mapError ConnectError.ofSpent <$> policy.run (pauseBetween host) fun _ =>
      connectAttempt host address port limit := by
  rw [map_eq_pure_bind]
  refine bind_congr fun outcome => ?_
  cases outcome <;> rfl

theorem Agent.probe_eq (timeouts : ConsoleTimeouts) : probe host address port policy timeouts =
    Except.mapError (AgentError.ofSpent port) <$> policy.run (Lab.pauseBetween host)
      (probeOnce host address port timeouts) := by
  rw [map_eq_pure_bind]
  refine bind_congr fun outcome => ?_
  cases outcome with
  | ok _ => rfl
  | error spent =>
      obtain ⟨attempts, last⟩ := spent
      cases last <;> rfl

end Lab

namespace RetryPolicy

/-- What a policy does with any ceiling `maxAttempts`: the attempts are numbered from one and stop
at the first success or at `most`, which is at least one and a number of 32 bits; the waits lie
between them (`Tried`); and the errors of `Lab.connect` and `Agent.probe` tell `most` when every
attempt has failed. -/
theorem tried_within_ceiling (maxAttempts : UInt32) (backoff : Backoff) :
    let most := max 1 maxAttempts.toNat
    let policy := RetryPolicy.ofBackoff maxAttempts.toNat backoff
    most < UInt32.size ∧
      (∀ {S ε α : Type} (sleep : Duration → StateM S Unit) (op : Nat → StateM S (Except ε α))
        (s : S), Tried backoff most sleep op 1 s ((policy.run sleep op).run s).1
          ((policy.run sleep op).run s).2) ∧
      (∀ delay count, (Backoff.fixed delay).schedule 1 count = List.replicate count delay) ∧
      (∀ first subsequent count, (Backoff.escalating first subsequent).schedule 1 (count + 1) =
        first :: List.replicate count subsequent) ∧
      (∀ {σ : Type} (host : Host σ) (address : String) (port : Nat) (limit : Duration)
        (lab : Lab σ), ∃ outcome lab', Tried backoff most (Lab.pauseBetween host)
            (fun _ => Lab.connectAttempt host address port limit) 1 lab outcome lab' ∧
          (Lab.connect host address port limit policy).run lab =
            (outcome.mapError fun spent => { spent.last with attempts := most }, lab')) ∧
      ∀ {σ : Type} (host : Host σ) (address : String) (port : Nat) (timeouts : ConsoleTimeouts)
        (lab : Lab σ), ∃ outcome lab', Tried backoff most (Lab.pauseBetween host)
            (Agent.probeOnce host address port timeouts) 1 lab outcome lab' ∧
          (Agent.probe host address port policy timeouts).run lab =
            (outcome.mapError fun spent => .ofSpent port ⟨most, spent.last⟩, lab') := by
  intro most policy
  have hmost : policy.maxAttempts = most := Nat.max_comm _ _
  have hbackoff : policy.backoff = backoff := rfl
  refine ⟨?_, fun sleep op s => ?_, fun delay count => Backoff.schedule_fixed delay 1 count,
    Backoff.schedule_escalating, fun host address port limit lab => ?_,
    fun host address port timeouts lab => ?_⟩
  · have hlt := maxAttempts.toNat_lt
    have hsize : UInt32.size = 2 ^ 32 := rfl
    show max 1 maxAttempts.toNat < UInt32.size
    omega
  · have htried := policy.run_tried sleep op s
    rwa [hmost, hbackoff] at htried
  · have hrebuilt := policy.run_rebuilt (Lab.pauseBetween host)
      (fun _ => Lab.connectAttempt host address port limit) ConnectError.ofSpent lab
    rw [hmost, hbackoff] at hrebuilt
    rw [Lab.connect_eq]
    exact hrebuilt
  · have hrebuilt := policy.run_rebuilt (Lab.pauseBetween host)
      (Agent.probeOnce host address port timeouts) (AgentError.ofSpent port) lab
    rw [hmost, hbackoff] at hrebuilt
    rw [Agent.probe_eq]
    exact hrebuilt

end RetryPolicy

/-! ### A policy by itself -/

/-- What is heard of a policy: the numbers of the attempts, and the waits. -/
structure Heard where
  attempts : List Nat := []
  waits : List Duration := []
  deriving DecidableEq, Repr

namespace Heard

/-- What was heard before, and then the rest. -/
def append (heard rest : Heard) : Heard :=
  ⟨heard.attempts ++ rest.attempts, heard.waits ++ rest.waits⟩

/-- A wait that is only heard of. -/
def wait (d : Duration) : StateM Heard Unit := modify (append · { waits := [d] })

/-- An attempt that is only heard of, and has the result that is laid down for it. -/
def attempt (script : Nat → Except ε α) (attempt : Nat) : StateM Heard (Except ε α) := do
  modify (append · { attempts := [attempt] })
  return script attempt

variable {script : Nat → Except ε α}

theorem append_assoc (a b c : Heard) : (a.append b).append c = a.append (b.append c) := by
  rw [append, append, append, append, List.append_assoc, List.append_assoc]

theorem append_nil (heard : Heard) : heard.append {} = heard := by
  rw [append, List.append_nil, List.append_nil]

theorem attempt_run {attempt : Nat} {result : Except ε α} (h : script attempt = result)
    (heard : Heard) : (Heard.attempt script attempt).run heard =
      (result, heard.append { attempts := [attempt] }) :=
  congrArg (Prod.mk · _) h

end Heard

namespace RetryPolicy

/-- What a policy comes to and what is heard of it, when the results of all attempts are laid down
beforehand. -/
def rehearse (policy : RetryPolicy) (script : Nat → Except ε α) :
    Except (RetryExhausted ε) α × Heard :=
  (policy.run Heard.wait (Heard.attempt script)).run {}

/-- The same from an attempt on. -/
def rehearseFrom (policy : RetryPolicy) (script : Nat → Except ε α) (first : Nat) :
    Except (RetryExhausted ε) α × Heard :=
  (runFrom policy.backoff Heard.wait (Heard.attempt script) (policy.maxAttempts - first) first).run
    {}

variable {policy : RetryPolicy} {script : Nat → Except ε α} {first : Nat}

/-- What was heard before makes no difference. -/
theorem runFrom_heard (backoff : Backoff) (script : Nat → Except ε α) (remaining first : Nat)
    (heard rest : Heard) :
    (runFrom backoff Heard.wait (Heard.attempt script) remaining first).run (heard.append rest) =
      Prod.map id heard.append
        ((runFrom backoff Heard.wait (Heard.attempt script) remaining first).run rest) := by
  induction remaining generalizing first rest with
  | zero =>
      rw [runFrom.eq_def, StateT.run_bind, StateT.run_bind]
      cases h : script first with
      | ok a =>
          rw [Heard.attempt_run h, Heard.attempt_run h, Heard.append_assoc]
          rfl
      | error e =>
          rw [Heard.attempt_run h, Heard.attempt_run h, Heard.append_assoc]
          rfl
  | succ remaining ih =>
      rw [runFrom.eq_def, StateT.run_bind, StateT.run_bind]
      cases h : script first with
      | ok a =>
          rw [Heard.attempt_run h, Heard.attempt_run h, Heard.append_assoc]
          rfl
      | error e =>
          rw [Heard.attempt_run h, Heard.attempt_run h, Heard.append_assoc]
          have hrest := ih (first + 1) ((rest.append { attempts := [first] }).append
            { waits := [backoff.delayForRetry first] })
          rw [← Heard.append_assoc] at hrest
          exact hrest

theorem rehearseFrom_ok {a : α} (h : script first = .ok a) :
    policy.rehearseFrom script first = (.ok a, { attempts := [first] }) := by
  rw [rehearseFrom, runFrom.eq_def, StateT.run_bind, Heard.attempt_run h]
  rfl

theorem rehearseFrom_spent {e : ε} (h : script first = .error e)
    (hspent : policy.maxAttempts ≤ first) :
    policy.rehearseFrom script first = (.error ⟨first, e⟩, { attempts := [first] }) := by
  rw [rehearseFrom, Nat.sub_eq_zero_of_le hspent, runFrom.eq_def, StateT.run_bind,
    Heard.attempt_run h]
  rfl

theorem rehearseFrom_again {e : ε} (h : script first = .error e)
    (hleft : first < policy.maxAttempts) :
    policy.rehearseFrom script first =
      Prod.map id (Heard.append ⟨[first], [policy.backoff.delayForRetry first]⟩)
        (policy.rehearseFrom script (first + 1)) := by
  have hremaining : policy.maxAttempts - first = policy.maxAttempts - (first + 1) + 1 := by omega
  have hheard := runFrom_heard policy.backoff script (policy.maxAttempts - (first + 1)) (first + 1)
    ⟨[first], [policy.backoff.delayForRetry first]⟩ {}
  rw [Heard.append_nil] at hheard
  rw [rehearseFrom, hremaining, runFrom.eq_def, StateT.run_bind, Heard.attempt_run h]
  exact hheard

end RetryPolicy

/-! ### The devices of a run -/

namespace Run

variable {σ β : Type} {s : Setup σ β} {first : Nat} {r r₁ r₂ r₃ : Run σ β} {e : DeviceError}

/-- One attempt to start the devices, with the end of whatever it has started if it fails. -/
def startOnce (s : Setup σ β) (attempt : Nat) : StateM (Run σ β) (Except DeviceError Unit) := do
  addMove (.attempted attempt)
  match ← (startAttempt s).run with
  | .ok () => return .ok ()
  | .error e =>
    abortAttempt s
    return .error e

/-- A wait to its end; the run is not cancelled. -/
def SleptOut (host : Host σ) (d : Duration) (r r' : Run σ β) : Prop :=
  (sleep host d).run.run r = (.ok false, r')

def readClock (host : Host σ) (r : Run σ β) : Instant × Run σ β :=
  (onLab (Lab.sys host.now) : StateM (Run σ β) Instant).run r

/-- Attempts to start the devices that fail, but not for good, each followed by the wait that the
policy has after it; one more attempt is allowed. -/
structure Restarts (s : Setup σ β) (first : Nat) (r : Run σ β) (errors : List DeviceError)
    (r' : Run σ β) : Prop where
  failed : Setbacks (startOnce s) (SleptOut s.host) first r errors
    (s.plan.timing.startup.backoff.schedule first errors.length) r'
  mild : ∀ e ∈ errors, e.isFatal = false
  allowed : first + errors.length ≤ s.plan.timing.startup.maxAttempts

/-- What the last attempt makes of a run, when no attempt failed for good. -/
def settle (attempts : Nat) (r : Run σ β) : Except DeviceError Unit → Except Stop Unit × Run σ β
  | .ok () => (.ok (), { r with phases := r.phases ++ [.plain .devicesStarting .success
      s!"{r.devices.length} device(s) healthy after {attempts} attempt(s)"] })
  | .error e => (.error (.phase (.failure .devicesStarting .startup
      s!"{e.message} (gave up after {attempts} attempts)")), r)

/-- How the attempts to start the devices may go, from the attempt `first` on.  Without a failure
for good, without a wish to cancel, and as long as the clock gets to the end of every wait, they go
as `rehearseFrom` goes on the same results. -/
inductive Starts (s : Setup σ β) (first : Nat) (r : Run σ β) : Except Stop Unit × Run σ β → Prop
  | settled {errors : List DeviceError} {last : Except DeviceError Unit} {r₁ r₂ : Run σ β}
      (hrow : Restarts s first r errors r₁)
      (hlast : (startOnce s (first + errors.length)).run r₁ = (last, r₂))
      (hmild : ∀ e, last = .error e → e.isFatal = false)
      (hpolicy : ∀ script : Nat → Except DeviceError Unit,
        (List.range' first (errors.length + 1)).map script = errors.map .error ++ [last] →
          s.plan.timing.startup.rehearseFrom script first =
            (last.mapError fun e => ⟨first + errors.length, e⟩,
              ⟨List.range' first (errors.length + 1),
                s.plan.timing.startup.backoff.schedule first errors.length⟩)) :
      Starts s first r (settle (first + errors.length) r₂ last)
  | hopeless {errors : List DeviceError} {e : DeviceError} {r₁ r₂ : Run σ β}
      (hrow : Restarts s first r errors r₁)
      (hlast : (startOnce s (first + errors.length)).run r₁ = (.error e, r₂))
      (hfatal : e.isFatal = true) :
      Starts s first r (.error (.phase (.failure .devicesStarting .launch e.message)), r₂)
  | cancelled {errors : List DeviceError} {e : DeviceError} {r₁ r₂ r₃ : Run σ β}
      (hrow : Restarts s first r errors r₁)
      (hlast : (startOnce s (first + errors.length)).run r₁ = (.error e, r₂))
      (hmild : e.isFatal = false)
      (hwait : (sleep s.host (s.plan.timing.startup.backoff.delayForRetry
        (first + errors.length))).run.run r₂ = (.ok true, r₃)) :
      Starts s first r (.error (.phase (.failure r₃.machine.phase .cancelled "run cancelled")), r₃)
  | overlong {errors : List DeviceError} {e : DeviceError} {r₁ r₂ : Run σ β}
      (hrow : Restarts s first r errors r₁)
      (hlast : (startOnce s (first + errors.length)).run r₁ = (.error e, r₂))
      (hmild : e.isFatal = false)
      (hclock : (readClock s.host r₂).1.after (s.plan.timing.startup.backoff.delayForRetry
        (first + errors.length)) = .error .pastClock) :
      Starts s first r (.error (.broken (.duration .pastClock)), (readClock s.host r₂).2)

theorem Restarts.nil (hfirst : first ≤ s.plan.timing.startup.maxAttempts) (r : Run σ β) :
    Restarts s first r [] r :=
  ⟨.none first r, fun _ h => absurd h List.not_mem_nil, hfirst⟩

theorem Restarts.again {errors : List DeviceError}
    (hfails : (startOnce s first).run r = (.error e, r₁)) (hmild : e.isFatal = false)
    (hwait : SleptOut s.host (s.plan.timing.startup.backoff.delayForRetry first) r₁ r₂)
    (hrest : Restarts s (first + 1) r₂ errors r₃) : Restarts s first r (e :: errors) r₃ := by
  refine ⟨?_, fun e' he' => ?_, ?_⟩
  · rw [List.length_cons, Backoff.schedule_succ]
    exact .again hfails hwait hrest.failed
  · rcases List.mem_cons.1 he' with rfl | he'
    · exact hmild
    · exact hrest.mild e' he'
  · have hallowed := hrest.allowed
    rw [List.length_cons]
    omega

/-- The first failure of a row, and the others. -/
theorem Restarts.uncons {errors : List DeviceError} (h : Restarts s first r (e :: errors) r₃) :
    ∃ r₁ r₂, (startOnce s first).run r = (.error e, r₁) ∧ e.isFatal = false ∧
      SleptOut s.host (s.plan.timing.startup.backoff.delayForRetry first) r₁ r₂ ∧
      Restarts s (first + 1) r₂ errors r₃ := by
  obtain ⟨hfailed, hmild, hallowed⟩ := h
  rw [List.length_cons] at hallowed
  rw [List.length_cons, Backoff.schedule_succ] at hfailed
  cases hfailed with
  | again hfails hwait hrest =>
      exact ⟨_, _, hfails, hmild e (List.mem_cons_self ..), hwait, hrest,
        fun e' he' => hmild e' (List.mem_cons_of_mem e he'), by omega⟩

/-- One more failure in front. -/
theorem Starts.again {ending : Except Stop Unit × Run σ β}
    (hfails : (startOnce s first).run r = (.error e, r₁)) (hmild : e.isFatal = false)
    (hleft : first < s.plan.timing.startup.maxAttempts)
    (hwait : SleptOut s.host (s.plan.timing.startup.backoff.delayForRetry first) r₁ r₂)
    (hrest : Starts s (first + 1) r₂ ending) : Starts s first r ending := by
  have hshift : ∀ errors : List DeviceError,
      first + 1 + errors.length = first + (e :: errors).length := by
    intro errors
    rw [List.length_cons]
    omega
  cases hrest with
  | @settled errors last _ _ hrow hlast hlastMild hpolicy =>
      rw [hshift] at hlast ⊢
      refine .settled (hrow.again hfails hmild hwait) hlast hlastMild fun script hscript => ?_
      rw [List.length_cons, List.range'_succ, List.map_cons, List.map_cons, List.cons_append,
        List.cons.injEq] at hscript
      have hrange : List.range' first ((e :: errors).length + 1) =
          first :: List.range' (first + 1) (errors.length + 1) := List.range'_succ
      rw [RetryPolicy.rehearseFrom_again hscript.1 hleft, hpolicy script hscript.2, hshift, hrange,
        List.length_cons, Backoff.schedule_succ]
      rfl
  | @hopeless errors _ _ _ hrow hlast hfatal =>
      rw [hshift] at hlast
      exact .hopeless (hrow.again hfails hmild hwait) hlast hfatal
  | @cancelled errors _ _ _ _ hrow hlast hlastMild hcancelled =>
      rw [hshift] at hlast hcancelled
      exact .cancelled (hrow.again hfails hmild hwait) hlast hlastMild hcancelled
  | @overlong errors _ _ _ hrow hlast hlastMild hclock =>
      rw [hshift] at hlast hclock
      exact .overlong (hrow.again hfails hmild hwait) hlast hlastMild hclock

/-- A wait goes as it goes, unless the clock ends before it. -/
theorem sleep_exact (host : Host σ) (d : Duration) (r : Run σ β) :
    Ends (· = r) (sleep host d)
      (fun cancelled r' => (sleep host d).run.run r = (.ok cancelled, r'))
      fun stop r' => stop = .broken (.duration .pastClock) ∧
        (readClock host r).1.after d = .error .pastClock ∧ r' = (readClock host r).2 := by
  have hpast : Ends (· = r) (sleep host d : Running σ β Bool) (fun _ _ => True)
      fun stop r' => stop = .broken (.duration .pastClock) ∧
        (readClock host r).1.after d = .error .pastClock ∧ r' = (readClock host r).2 := by
    have hread : Leads (· = r) (onLab (Lab.sys host.now) : StateM (Run σ β) Instant)
        fun now r' => readClock host r = (now, r') := by
      rintro _ rfl
      rfl
    refine .bind (.lift hread) fun now => ?_
    cases hafter : now.after d with
    | error cause =>
        refine .throw fun r' h => ?_
        obtain rfl := Instant.eq_pastClock_of_after hafter
        exact ⟨rfl, by rw [h]; exact hafter, by rw [h]⟩
    | ok deadline => exact .lift fun _ _ => trivial
  exact (Ends.exact.and hpast).conseq (fun _ h => ⟨h, h⟩) (fun _ _ h => h.1) fun _ _ h => h.2

theorem sleep_overlong {host : Host σ} {d : Duration}
    (h : (readClock host r).1.after d = .error .pastClock) :
    (sleep host d).run.run r = (.error (.broken (.duration .pastClock)), (readClock host r).2) := by
  have hread : (onLab (Lab.sys host.now) : Running σ β Instant).run.run r =
      (pure (.ok (readClock host r).1, (readClock host r).2) : Id _) := rfl
  rw [sleep, ExceptT.run_bind, StateT.run_bind, hread, pure_bind]
  simp only [h]
  rfl

/-- One attempt, whose steps have all succeeded. -/
theorem startOnce_ok (h : (startAttempt s).run.run { r with
    moves := r.moves.push (.attempted first) } = (.ok (), r₁)) :
    (startOnce s first).run r = (.ok (), r₁) := by
  have hmove : ((addMove (.attempted first) : StateM (Run σ β) Unit).run r).2 =
      { r with moves := r.moves.push (.attempted first) } := rfl
  rw [startOnce, StateT.run_bind]
  change StateT.run (_ >>= _) _ = _
  rw [StateT.run_bind, hmove, h]
  rfl

/-- One attempt, a step of which has failed. -/
theorem startOnce_error (h : (startAttempt s).run.run { r with
    moves := r.moves.push (.attempted first) } = (.error e, r₁))
    (haborted : (abortAttempt s).run r₁ = ((), r₂)) :
    (startOnce s first).run r = (.error e, r₂) := by
  have hmove : ((addMove (.attempted first) : StateM (Run σ β) Unit).run r).2 =
      { r with moves := r.moves.push (.attempted first) } := rfl
  rw [startOnce, StateT.run_bind]
  change StateT.run (_ >>= _) _ = _
  rw [StateT.run_bind, hmove, h]
  change StateT.run (_ >>= _) r₁ = _
  rw [StateT.run_bind, haborted]
  rfl

/-- The attempts that are left go as they may, by induction on their number. -/
theorem startFrom_starts (remaining first : Nat) (r : Run σ β)
    (hleft : first + remaining = s.plan.timing.startup.maxAttempts) :
    Ends (· = r) (startFrom s remaining first) (fun a r' => Starts s first r (.ok a, r'))
      fun stop r' => Starts s first r (.error stop, r') := by
  have hnone : Restarts s first r [] r := .nil (Nat.le.intro hleft) r
  rw [startFrom.eq_def]
  refine .bind (Q := fun _ r₁ => r₁ = { r with moves := r.moves.push (.attempted first) })
    (.modify fun r₁ h₁ => by subst h₁; rfl) fun _ => ?_
  refine .bind (.lift (x := (startAttempt s).run) (Q := fun result r₁ =>
    (startAttempt s).run.run { r with moves := r.moves.push (.attempted first) } = (result, r₁))
    fun r₁ h₁ => h₁ ▸ rfl) fun result => .of_eq fun r₁ hattempt => ?_
  cases result with
  | ok _ =>
      refine .bind (Q := fun run r' => run = r₁ ∧ r' = r₁) (.get fun _ h => ⟨h, h⟩) fun run => ?_
      refine .modify fun r' h => ?_
      obtain ⟨rfl, rfl⟩ := h
      refine .settled hnone (startOnce_ok hattempt) (fun _ h => by cases h) fun script h => ?_
      exact RetryPolicy.rehearseFrom_ok (List.head_eq_of_cons_eq h)
  | error e =>
      refine .bind (.lift (x := abortAttempt s) (Q := fun _ r₂ =>
        (startOnce s first).run r = (.error e, r₂))
        fun r' h => startOnce_error (h ▸ hattempt) rfl) fun _ => .of_eq fun r₂ honce => ?_
      refine .ite (fun hfatal => ?_) fun hfatal => ?_
      · refine .bind (Q := fun _ _ => False) (.throw fun r' h => ?_) fun _ => .absurd
        subst h
        exact .hopeless hnone honce hfatal
      have hmild : e.isFatal = false := Bool.eq_false_iff.2 hfatal
      cases remaining with
      | zero =>
          refine .throw fun r' h => ?_
          subst h
          refine .settled hnone honce (fun e' h => ?_) fun script h => ?_
          · cases h
            exact hmild
          · exact RetryPolicy.rehearseFrom_spent (List.head_eq_of_cons_eq h)
              (Nat.le_of_eq hleft.symm)
      | succ remaining =>
          refine .bind ((sleep_exact s.host _ r₂).weaken (fun _ _ h => h) fun stop r' h => ?_)
            fun cancelled => .of_eq fun r₃ hwait => ?_
          · obtain ⟨rfl, hclock, rfl⟩ := h
            exact .overlong hnone honce hmild hclock
          refine .ite (fun hcancelled => ?_) fun hcancelled => ?_
          · subst hcancelled
            refine .bind (Q := fun _ _ => False) (.bind (Q := fun run r' => run = r₃ ∧ r' = r₃)
              (.get fun _ h => ⟨h, h⟩) fun run => .throw fun r' h => ?_) fun _ => .absurd
            obtain ⟨rfl, rfl⟩ := h
            exact .cancelled hnone honce hmild hwait
          · rw [Bool.eq_false_iff.2 hcancelled] at hwait
            have hmore : first < s.plan.timing.startup.maxAttempts := by omega
            exact (startFrom_starts remaining (first + 1) r₃ (by omega)).weaken
              (fun _ _ h => h.again honce hmild hmore hwait)
              fun _ _ h => h.again honce hmild hmore hwait
termination_by remaining

/-- **The devices are started as the policy has it.**  As long as no attempt fails for good, the
run is not cancelled and the clock gets to the end of every wait, the attempts, the waits and the
ending of `startDevices` are those that `rehearse` gives for the policy by itself on the same
results. After a failure for good there is neither a wait nor another attempt.  A wait that the
clock does not get to the end of breaks the run off at the reading of the clock before it. -/
theorem startDevices_rehearsed (s : Setup σ β) (r : Run σ β) :
    Starts s 1 r ((startDevices s).run.run r) ∧
      (∀ script : Nat → Except DeviceError Unit,
        s.plan.timing.startup.rehearse script = s.plan.timing.startup.rehearseFrom script 1) ∧
      ∀ count, (s.plan.timing.startup.backoff.schedule 1 count).length = count := by
  refine ⟨?_, fun _ => rfl, Backoff.length_schedule _ 1⟩
  have hpos := s.plan.timing.startup.attempts_pos
  have hstarts := startFrom_starts (s := s) (s.plan.timing.startup.maxAttempts - 1) 1 r (by omega)
  have hall := hstarts r rfl
  rw [← startDevices] at hall
  cases hrun : (startDevices s).run.run r with
  | mk result r' =>
      rw [hrun] at hall
      cases result with
      | ok _ => exact hall
      | error _ => exact hall

end Run

namespace Sample

/-- The wait before another attempt to start the devices is 10^19 seconds. -/
def patient : Config := { config with timing := { startupDelay := .ofNat 10000000000000000000 } }

theorem planned_patient : (plan? patient).isSome := by decide +kernel

/-- A run whose devices have been acquired, and whose first attempt to start them will fail. -/
def patientRun : Run Disk FaultScript :=
  ((Run.acquireDevices (setup planned_patient)).run.run
    (.fresh (setup planned_patient).plan {} redirectFailsOnce)).2

end Sample

namespace Run

open Sample in
/-- The policy by itself waits for 10^19 seconds and then goes on to the second attempt, which
succeeds.  The clock does not get that far: there is no second attempt. -/
theorem startDevices_breaks_off : ∃ e r delay,
    (setup planned_patient).plan.config.validate = .ok () ∧
    ((startOnce (setup planned_patient) 1).run patientRun).1 = .error e ∧ e.isFatal = false ∧
    (setup planned_patient).plan.timing.startup.rehearse
      (fun attempt => if attempt = 1 then Except.error e else .ok ()) =
        (.ok (), ⟨[1, 2], [delay]⟩) ∧
    (startDevices (setup planned_patient)).run.run patientRun =
      (.error (.broken (.duration .pastClock)), r) ∧
    .attempted 2 ∉ r.moves.toList := by
  have hfirst : ((startDevices (setup planned_patient)).run.run patientRun).2.moves.toList.all
      (fun | .attempted attempt => attempt == 1 | _ => true) = true := by decide +kernel
  refine ⟨.redirect "a" (.unexpectedReply "OK" "KO"), _,
    (setup planned_patient).plan.timing.startup.backoff.delayForRetry 1,
    setup_valid planned_patient, by decide +kernel, rfl, ?_, Prod.ext (by decide +kernel) rfl,
    fun hmem => absurd (List.all_eq_true.1 hfirst _ hmem) (by decide)⟩
  change RetryPolicy.rehearseFrom _ _ 1 = _
  rw [RetryPolicy.rehearseFrom_again
      (e := DeviceError.redirect "a" (.unexpectedReply "OK" "KO")) rfl (by decide +kernel),
    RetryPolicy.rehearseFrom_ok (a := ()) rfl]
  rfl

/-! ### The rule for starting the devices -/

section Rule

variable {σ β : Type} {s : Setup σ β} {first : Nat} {r r' : Run σ β}
  {P B A I F Q : Run σ β → Prop} {E : Stop → Run σ β → Prop}

/-- One attempt: `B` is true when it has begun, and `A` when a step of it has failed. -/
theorem startOnce_leads {attempt : Nat}
    (hbegin : ∀ r, P r → B { r with moves := r.moves.push (.attempted attempt) })
    (hattempt : Ends B (startAttempt s) (fun _ => Q) fun _ => A)
    (habort : Leads A (abortAttempt s) fun _ => F) :
    Leads P (startOnce s attempt) fun result r => match result with
      | .ok _ => Q r
      | .error _ => F r := by
  refine .bind (Q := fun _ => B) (.modify hbegin) fun _ =>
    .bind (Q := fun result r => match result with
      | .ok _ => Q r
      | .error _ => A r) (.attempt hattempt) fun result => ?_
  cases result with
  | ok _ => exact .pure fun _ h => h
  | error e => exact .bind habort fun _ => .pure fun _ h => h

/-- What each attempt that fails makes of `I`, and each wait makes `I` of again, is `I` after a row
of them. -/
theorem Restarts.keeps {errors : List DeviceError} (hrow : Restarts s first r errors r')
    (honce : ∀ attempt, Leads I (startOnce s attempt) fun result r => result ≠ .ok () → F r)
    (hwait : ∀ attempt, Ends F (sleep s.host (s.plan.timing.startup.backoff.delayForRetry attempt))
      (fun cancelled r => cancelled = false → I r) fun _ _ => True)
    (hr : I r) : I r' := by
  induction errors generalizing first r with
  | nil =>
      cases hrow.failed
      exact hr
  | cons e errors ih =>
      obtain ⟨r₁, r₂, hfails, -, hslept, hrest⟩ := hrow.uncons
      have hfailed := (honce first).result hr hfails nofun
      exact ih hrest ((hwait first).ok hfailed hslept rfl)

/-- The rule: `I` is true before each attempt, and `F` after one that has failed.  A failure is
written down as one of the phase. -/
theorem startDevices_ends
    (honce : ∀ attempt, Leads I (startOnce s attempt) fun result r => match result with
      | .ok _ => Q (settle attempt r (.ok ())).2
      | .error _ => F r)
    (hfails : ∀ o r, F r → o.phase = .devicesStarting → o.severity = .fatal → E (.phase o) r)
    (hwait : ∀ attempt, Ends F (sleep s.host (s.plan.timing.startup.backoff.delayForRetry attempt))
      (fun cancelled r => match cancelled with
        | true => E (.phase (.failure r.machine.phase .cancelled "run cancelled")) r
        | false => I r) E) :
    Ends I (startDevices s) (fun _ => Q) E := by
  refine .of_eq fun r hr => ?_
  have hkeeps : ∀ {errors : List DeviceError} {r' : Run σ β}, Restarts s 1 r errors r' → I r' := by
    refine fun hrow => hrow.keeps (F := F) (fun attempt => (honce attempt).weaken ?_)
      (fun attempt => (hwait attempt).weaken ?_ fun _ _ _ => trivial) hr
    · rintro (e | _) r' h hne
      · exact h
      · exact absurd rfl hne
    · rintro _ r' h rfl
      exact h
  have hends : ∀ ending, Starts s 1 r ending → match ending.1 with
      | .ok _ => Q ending.2
      | .error stop => E stop ending.2 := by
    intro ending h
    cases h with
    | @settled errors last r₁ r₂ hrow hlast =>
        have hdone := (honce _).result (hkeeps hrow) hlast
        cases last with
        | ok _ => exact hdone
        | error e => exact hfails _ _ hdone rfl rfl
    | @hopeless errors e r₁ r₂ hrow hlast =>
        exact hfails _ _ ((honce _).result (hkeeps hrow) hlast) rfl rfl
    | @cancelled errors e r₁ r₂ r₃ hrow hlast _ hslept =>
        exact (hwait _).ok ((honce _).result (hkeeps hrow) hlast) hslept
    | @overlong errors e r₁ r₂ hrow hlast _ hclock =>
        exact (hwait _).error ((honce _).result (hkeeps hrow) hlast) (sleep_overlong hclock)
  have hpos := s.plan.timing.startup.attempts_pos
  exact (startFrom_starts (s := s) (s.plan.timing.startup.maxAttempts - 1) 1 r (by omega)).weaken
    (fun _ _ h => hends _ h) fun _ _ h => hends _ h

end Rule

end Run

end DeviceLab
