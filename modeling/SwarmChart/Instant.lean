import SwarmChart.Calendar
import SwarmChart.Span

/-!
# Instants

A moment of universal time, as the second in which it lies and the nanoseconds gone by since that
second began. An inserted leap second belongs to the second before it: inside one the nanoseconds
run on from one to two thousand million. Instants are ordered by second and then by nanosecond, so
a leap second lies between its neighbours.

`Instant.advance` moves an instant by a span and `Instant.since` measures the span between two
instants. Away from leap seconds both are ordinary arithmetic on `Instant.onLine`, the nanoseconds
since 1970. A leap second is counted only when an operand lies inside it.
-/

set_option autoImplicit false

namespace SwarmChart

/-- A moment of universal time. -/
structure Instant where
  /-- The seconds since 1970-01-01T00:00:00, leap seconds not counted. -/
  seconds : Int
  /-- The nanoseconds since that second began, one thousand million or more in a leap second. -/
  nanos : Nat
  deriving DecidableEq, Repr, Inhabited

namespace Instant

instance : LT Instant :=
  ⟨fun a b => a.seconds < b.seconds ∨ (a.seconds = b.seconds ∧ a.nanos < b.nanos)⟩

instance : LE Instant :=
  ⟨fun a b => a.seconds < b.seconds ∨ (a.seconds = b.seconds ∧ a.nanos ≤ b.nanos)⟩

instance (a b : Instant) : Decidable (a < b) :=
  inferInstanceAs (Decidable (a.seconds < b.seconds ∨ (a.seconds = b.seconds ∧ a.nanos < b.nanos)))

instance (a b : Instant) : Decidable (a ≤ b) :=
  inferInstanceAs (Decidable (a.seconds < b.seconds ∨ (a.seconds = b.seconds ∧ a.nanos ≤ b.nanos)))

theorem lt_iff (a b : Instant) :
    a < b ↔ a.seconds < b.seconds ∨ (a.seconds = b.seconds ∧ a.nanos < b.nanos) := Iff.rfl

theorem le_iff (a b : Instant) :
    a ≤ b ↔ a.seconds < b.seconds ∨ (a.seconds = b.seconds ∧ a.nanos ≤ b.nanos) := Iff.rfl

/-- The earlier of two instants. -/
def earlier (a b : Instant) : Instant := if a ≤ b then a else b

/-- The instant lies outside every leap second. -/
def Ordinary (instant : Instant) : Prop := instant.nanos < nanosPerSecond

instance (instant : Instant) : Decidable instant.Ordinary :=
  inferInstanceAs (Decidable (instant.nanos < nanosPerSecond))

/-- The seconds of a day. -/
abbrev secondsPerDay : Nat := 86400

/-- The day number of the instant. -/
def day (instant : Instant) : Int := instant.seconds / secondsPerDay

/-- The seconds of the instant's day that have begun before its own second. -/
def secondOfDay (instant : Instant) : Nat := (instant.seconds % secondsPerDay).toNat

/-- The first instant of the calendar range. -/
def earliest : Instant := ⟨Date.first.dayNumber * secondsPerDay, 0⟩

/-- The last instant of the calendar range outside a leap second. -/
def latest : Instant :=
  ⟨Date.last.dayNumber * secondsPerDay + (secondsPerDay - 1), nanosPerSecond - 1⟩

/-- The instant's day is one that the calendar range holds. -/
def inRange (instant : Instant) : Bool :=
  Date.first.dayNumber ≤ instant.day && instant.day ≤ Date.last.dayNumber

/-- The nanoseconds since 1970, a leap second's own running on into the next second. -/
def onLine (instant : Instant) : Int := instant.seconds * nanosPerSecond + instant.nanos

/-- The ordinary instant that many nanoseconds after the start of 1970. -/
def ofLine (nanos : Int) : Instant :=
  ⟨nanos / nanosPerSecond, (nanos % nanosPerSecond).toNat⟩

/-- The instant moved by a span. A part of a second that does not leave a leap second moves within
it. Any other move steps out of the leap second first: onwards through its own start, since the
second itself is then passed, and backwards through its end. -/
def advance (instant : Instant) (span : Span) : Instant :=
  let whole := span.nanos.tdiv nanosPerSecond
  let part := span.nanos.tmod nanosPerSecond
  if instant.nanos < nanosPerSecond then
    ofLine (instant.onLine + span.nanos)
  -- Onwards and out: the leap second itself takes up no time on the line.
  else if 0 < whole ∨ (0 < part ∧ 2 * nanosPerSecond ≤ instant.nanos + part) then
    ofLine (instant.onLine - nanosPerSecond + span.nanos)
  -- Backwards by a second or more.
  else if whole < 0 then
    ofLine (instant.onLine + span.nanos)
  -- The instant stays inside, or leaves the leap second backwards by a part of a second.
  else
    ⟨instant.seconds, (instant.nanos + part).toNat⟩

/-- The leap second that an operand adds to the distance between two instants: one, when the
earlier time of day lies inside a leap second. Only the times of day are compared, not the days. -/
def leapBetween (later sooner : Instant) : Int :=
  if sooner.secondOfDay < later.secondOfDay ∧ nanosPerSecond ≤ sooner.nanos then 1
  else if later.secondOfDay < sooner.secondOfDay ∧ nanosPerSecond ≤ later.nanos then -1
  else 0

/-- The span from `sooner` to `later`, negative when they stand the other way around. -/
def since (later sooner : Instant) : Span :=
  ⟨later.onLine - sooner.onLine + leapBetween later sooner * nanosPerSecond⟩

end Instant

end SwarmChart
