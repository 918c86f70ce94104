import DeviceLab.Time.Duration

/-!
# Bounded retry

A policy says how often an operation is tried and how long to wait before each further attempt.
`RetryPolicy.run` carries it out in any monad: the operation is given the number of the attempt,
counted from one, and the waits lie between the attempts.
-/

namespace DeviceLab

/-- The waits between attempts. -/
inductive Backoff where
  /-- The same wait before every further attempt. -/
  | fixed (delay : Duration)
  /-- One wait before the second attempt and another one before each later one. -/
  | escalating (first subsequent : Duration)
  deriving DecidableEq, Repr

/-- The wait before further attempt number `retry`, counted from one. -/
def Backoff.delayForRetry (b : Backoff) (retry : Nat) : Duration :=
  match b with
  | .fixed delay => delay
  | .escalating first subsequent => if retry ≤ 1 then first else subsequent

/-- How often to try, and the waits. -/
structure RetryPolicy where
  maxAttempts : Nat
  backoff : Backoff
  /-- There is always a first attempt. -/
  attempts_pos : 0 < maxAttempts
  deriving DecidableEq, Repr

/-- Every attempt failed. -/
structure RetryExhausted (ε : Type) where
  attempts : Nat
  last : ε
  deriving Repr

namespace RetryPolicy

/-- A policy; no attempt at all means one. -/
def ofBackoff (maxAttempts : Nat) (backoff : Backoff) : RetryPolicy :=
  ⟨max maxAttempts 1, backoff, by omega⟩

/-- A policy with the same wait before every further attempt. -/
def fixed (maxAttempts : Nat) (delay : Duration) : RetryPolicy :=
  ofBackoff maxAttempts (.fixed delay)

/-- A policy with one wait before the second attempt and another one later. -/
def escalating (maxAttempts : Nat) (first subsequent : Duration) : RetryPolicy :=
  ofBackoff maxAttempts (.escalating first subsequent)

/-- A single attempt. -/
def once : RetryPolicy := fixed 1 .zero

/-- Tries `remaining + 1` times at most, from attempt number `attempt` on. -/
def runFrom [Monad m] (backoff : Backoff) (sleep : Duration → m Unit)
    (op : Nat → m (Except ε α)) : Nat → Nat → m (Except (RetryExhausted ε) α)
  | remaining, attempt => do
    match ← op attempt with
    | .ok a => return .ok a
    | .error e =>
      match remaining with
      | 0 => return .error ⟨attempt, e⟩
      | remaining + 1 =>
        sleep (backoff.delayForRetry attempt)
        runFrom backoff sleep op remaining (attempt + 1)

/-- Tries an operation until it succeeds or the attempts are used up. -/
def run [Monad m] (policy : RetryPolicy) (sleep : Duration → m Unit)
    (op : Nat → m (Except ε α)) : m (Except (RetryExhausted ε) α) :=
  runFrom policy.backoff sleep op (policy.maxAttempts - 1) 1

end RetryPolicy

end DeviceLab
