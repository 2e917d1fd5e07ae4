import SwarmChart.Instant
import SwarmChart.Text.Reader

/-!
# The fields of a timestamp

A timestamp is written as the fields of a date and of a time of day. `Fields.instant?` gives the
instant that such fields name in universal time, and refuses fields that name none; the readers of
both notations end with it. Second 60 names the leap second after second 59 and is allowed in
every minute. `Fields.ofInstant` goes the other way.

Both notations may end their fields with a fraction of the second, which is read here too.
-/

set_option autoImplicit false

namespace SwarmChart.Timestamp

/-- The fields of a written timestamp. -/
structure Fields where
  date : Date
  hour : Nat
  minute : Nat
  /-- Second 60 is a leap second. -/
  second : Nat
  /-- The fraction of the second. -/
  nanos : Nat
  deriving DecidableEq, Repr

namespace Fields

/-- The fields name a moment that can be held. -/
def isValid (fields : Fields) : Bool :=
  fields.date.isValid && fields.date.inRange && fields.hour < 24 && fields.minute < 60 &&
    fields.second ≤ 60

/-- The instant that the fields name when they are taken for universal time. -/
def instant (fields : Fields) : Instant :=
  let minutes : Int :=
    fields.date.dayNumber * Instant.secondsPerDay + fields.hour * 3600 + fields.minute * 60
  if fields.second = 60 then ⟨minutes + 59, nanosPerSecond + fields.nanos⟩
  else ⟨minutes + fields.second, fields.nanos⟩

/-- The instant that the fields name, if they name one. -/
def instant? (fields : Fields) : Option Instant :=
  if fields.isValid then some fields.instant else none

/-- The fields of an instant. A leap second is second 60 of its minute. -/
def ofInstant (instant : Instant) : Fields :=
  let inDay := instant.secondOfDay
  let leap := instant.nanos / nanosPerSecond
  ⟨Date.ofDayNumber instant.day, inDay / 3600, inDay / 60 % 60, inDay % 60 + leap,
    instant.nanos % nanosPerSecond⟩

end Fields

/-- The nanoseconds that the digits after the point write; those past the ninth are ignored. -/
def nanosOfFraction (front : List Char) : Nat :=
  Decimal.value (front.take 9) * Decimal.tenTo (9 - front.length)

/-- Reads the fraction of a second. It may be absent, but a point must have a digit after it. -/
def fraction : Text.Reader Nat
  | '.' :: text =>
    match Decimal.run text with
    | [] => none
    | front => some (nanosOfFraction front, text.drop front.length)
  | text => some (0, text)

end SwarmChart.Timestamp
