import Shoreline.Time.Gregorian

/-!
# `Shoreline.Time.Instant` — instants, offsets and local time

An instant is a second counted from 1970-01-01 00:00 UTC and a part of that second in nanoseconds.
A leap second is the last second of a minute with a part of one second or more. Instants can be
represented from the first to the last `Date`. An offset is the number of seconds by which local
time is ahead of UTC, less than a day either way.

## Contents
- `Instant`, `Instant.ofMillis?`, `Instant.millis`, the order.
- `Offset`, `localParts`: date and time of an instant at an offset.
- `Instant.ofLocal?`: the instant of a local date and time.
-/

namespace Shoreline.Time

/-- Seconds of a day. -/
def daySeconds : Int := 86400

/-! ## Instants -/

/-- A point in time. -/
structure Instant where
  /-- Whole seconds from 1970-01-01 00:00 UTC. -/
  seconds : Int
  /-- The part of the second in nanoseconds; from a whole second up for a leap second. -/
  nanos : Nat
deriving DecidableEq, Repr, Inhabited

namespace Instant

/-- The least second that can be represented. -/
def minSeconds : Int := dayNumber minYear 1 1 * daySeconds

/-- The greatest second that can be represented. -/
def maxSeconds : Int := dayNumber maxYear 12 31 * daySeconds + 86399

/-- The instant of a second, if it can be represented. -/
def of? (seconds : Int) (nanos : Nat) : Option Instant :=
  if minSeconds ≤ seconds ∧ seconds ≤ maxSeconds then some ⟨seconds, nanos⟩ else none

/-- The instant of milliseconds from 1970-01-01 00:00 UTC, wherever it lies. -/
def ofMillis (ms : Int) : Instant := ⟨ms / 1000, (ms % 1000).toNat * 1000000⟩

/-- The same, if it can be represented. -/
def ofMillis? (ms : Int) : Option Instant :=
  let t := ofMillis ms
  of? t.seconds t.nanos

/-- The least instant. -/
def least : Instant := ⟨minSeconds, 0⟩

/-- Whole milliseconds from 1970-01-01 00:00 UTC. -/
def millis (t : Instant) : Int := t.seconds * 1000 + (t.nanos / 1000000 : Nat)

/-- The instant some seconds later. -/
def addSeconds (t : Instant) (s : Int) : Instant := ⟨t.seconds + s, t.nanos⟩

/-- Not later than. -/
def atMost (t u : Instant) : Bool :=
  t.seconds < u.seconds || (t.seconds == u.seconds && t.nanos ≤ u.nanos)

/-- Milliseconds survive the way into instants and back. -/
theorem millis_ofMillis (ms : Int) : (ofMillis ms).millis = ms := by
  unfold millis ofMillis
  simp only
  rw [Nat.mul_div_cancel _ (by decide)]
  omega

/-- Instants of milliseconds are ordered as the milliseconds are. -/
theorem atMost_ofMillis (a b : Int) : (ofMillis a).atMost (ofMillis b) = decide (a ≤ b) := by
  unfold atMost ofMillis
  rw [Bool.eq_iff_iff]
  simp only [Bool.or_eq_true, Bool.and_eq_true, decide_eq_true_eq, beq_iff_eq]
  omega

end Instant

/-! ## Local time -/

/-- How far local time is ahead of UTC, in seconds; less than a day. -/
structure Offset where
  seconds : Int
  within : -86400 < seconds ∧ seconds < 86400
deriving DecidableEq, Repr

namespace Offset

/-- The offset of so many seconds, if it is less than a day. -/
def of? (seconds : Int) : Option Offset :=
  if h : -86400 < seconds ∧ seconds < 86400 then some ⟨seconds, h⟩ else none

/-- No offset. -/
def utc : Offset := ⟨0, by decide⟩

/-- Korea Standard Time, nine hours ahead. -/
def korea : Offset := ⟨9 * 3600, by decide⟩

instance : Inhabited Offset := ⟨utc⟩

end Offset

/-- Date and time of day. A leap second has the second 59 and a part of a whole second or more. -/
structure LocalTime where
  date : Civil
  hour : Nat
  minute : Nat
  second : Nat
  nanos : Nat
deriving DecidableEq, Repr

/-- Date and time of an instant at an offset; the date may lie a day outside the dates. -/
def Instant.localParts (t : Instant) (offset : Offset) : LocalTime :=
  let s := t.seconds + offset.seconds
  let inDay := (s % daySeconds).toNat
  ⟨civil (s / daySeconds), inDay / 3600, inDay / 60 % 60, inDay % 60, t.nanos⟩

/-- The instant at which local clocks at an offset show a date and a time of day, if it can be
represented. -/
def Instant.ofLocal? (date : Date) (hour minute second nanos : Nat) (offset : Offset) :
    Option Instant :=
  Instant.of? (date.number * daySeconds + (hour * 3600 + minute * 60 + second : Nat) - offset.seconds)
    nanos

end Shoreline.Time
