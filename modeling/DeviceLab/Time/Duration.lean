import DeviceLab.Decimal.Powers
import DeviceLab.Decimal.Binary64

/-!
# Durations and instants

A duration is a whole number of nanoseconds.  A number of seconds becomes one by rounding to the
nearest nanosecond, a half going to the even one; a negative number, one that rounds to `2^64`
seconds or more, and one without a value do not.  The clock counts its seconds in 64 bits with a
sign, so that not every duration that there is fits between now and its end.
-/

namespace DeviceLab

open Decimal

/-- A length of time in nanoseconds. -/
structure Duration where
  nanos : Nat
  deriving DecidableEq, Repr, Inhabited

namespace Duration

/-- No time at all. -/
def zero : Duration := ⟨0⟩

/-- A whole number of seconds. -/
def ofSeconds (n : Nat) : Duration := ⟨n * tenTo 9⟩

/-- A whole number of milliseconds. -/
def ofMillis (n : Nat) : Duration := ⟨n * tenTo 6⟩

/-- Whole seconds, and the nanoseconds above them. -/
def seconds (d : Duration) : Nat := d.nanos / tenTo 9

/-- The nanoseconds above the whole seconds. -/
def subsecNanos (d : Duration) : Nat := d.nanos % tenTo 9

/-- Whole milliseconds, rounded down. -/
def millis (d : Duration) : Nat := d.nanos / tenTo 6

end Duration

/-- Why a time cannot be waited for. -/
inductive DurationError where
  | negative
  | tooBigOrNan
  /-- The clock ends before it. -/
  | pastClock
  /-- What is waited for has not come after as many looks as were allowed. -/
  | endless
  deriving DecidableEq, Repr

/-- The text of the error. -/
def DurationError.message : DurationError → String
  | .negative => "cannot convert float seconds to Duration: value is negative"
  | .tooBigOrNan => "cannot convert float seconds to Duration: value is either too big or NaN"
  | .pastClock => "overflow when adding duration to instant"
  | .endless => "still waiting after every look that the limits allow for"

/-- The duration of a number of seconds. -/
def Duration.fromSeconds (x : Binary64) : Except DurationError Duration :=
  match x.value with
  | .nan => .error .tooBigOrNan
  | .infinite negative => .error (if negative then .negative else .tooBigOrNan)
  | .finite negative m q =>
    if negative && m != 0 then .error .negative
    else
      let nanos := roundHalfEven (m * twoTo q.toNat * tenTo 9) (twoTo (-q).toNat)
      if nanos < twoTo 64 * tenTo 9 then .ok ⟨nanos⟩ else .error .tooBigOrNan

/-- A point on the clock that only moves forward, in nanoseconds. -/
structure Instant where
  nanos : Int
  deriving DecidableEq, Repr, Inhabited

namespace Instant

/-- The time from `earlier` to `later`, or none of it when the order is the other way round. -/
def since (later earlier : Instant) : Duration := ⟨(later.nanos - earlier.nanos).toNat⟩

/-- The first nanosecond that the clock cannot count to. -/
def clockEnd : Nat := twoTo 63 * tenTo 9

/-- The point a duration later, if the clock gets there. -/
def after (t : Instant) (d : Duration) : Except DurationError Instant :=
  if t.nanos + d.nanos < clockEnd then .ok ⟨t.nanos + d.nanos⟩ else .error .pastClock

end Instant

end DeviceLab
