/-!
# Lengths of time

A `Span` is a signed number of nanoseconds. Spans that come from a number of milliseconds are held
between `Span.shortest` and `Span.longest`, the two ends of what a clock counter of 64 bits can
express (`Span.ofMillis`). A length that the counter does not hold is recognised before the counter
is set, and becomes the end on its side.
-/

set_option autoImplicit false

namespace SwarmChart

/-- The nanoseconds of a second. -/
abbrev nanosPerSecond : Nat := 1000000000

/-- A signed length of time in nanoseconds. -/
structure Span where
  nanos : Int
  deriving DecidableEq, Repr

namespace Span

/-- The number of milliseconds that bounds the spans made from milliseconds on both sides. -/
def millisLimit : Int := 9223372036854775807

/-- The least number of milliseconds that a clock counter of 64 bits does not hold. -/
def counterEnd : Int := 9223372036854775808

/-- No time at all. -/
def zero : Span := ⟨0⟩

/-- The longest span that a number of milliseconds can give. -/
def longest : Span := ⟨millisLimit * 1000000⟩

/-- The most negative span that a number of milliseconds can give. -/
def shortest : Span := ⟨-millisLimit * 1000000⟩

/-- The span of a clock counter of milliseconds. The least value of the counter has none, so that
every span has its negative. -/
def ofCounter? (counter : Int64) : Option Span :=
  if counter.toInt < -millisLimit then none else some ⟨counter.toInt * 1000000⟩

/-- The span of a whole number of milliseconds of any size. What the counter does not hold, and what
it has no span for, becomes the end on the side of its sign. -/
def ofMillis (millis : Int) : Span :=
  if counterEnd ≤ millis then longest
  else if millis ≤ -counterEnd then shortest
  else
    let saturated := if 0 < millis then longest else shortest
    (ofCounter? (Int64.ofIntClamp millis)).getD saturated

/-- The whole milliseconds of a span, with any remainder dropped. -/
def inMillis (span : Span) : Int := span.nanos.tdiv 1000000

instance : Neg Span := ⟨fun span => ⟨-span.nanos⟩⟩

instance : LE Span := ⟨fun a b => a.nanos ≤ b.nanos⟩

instance : LT Span := ⟨fun a b => a.nanos < b.nanos⟩

instance (a b : Span) : Decidable (a ≤ b) := inferInstanceAs (Decidable (a.nanos ≤ b.nanos))

instance (a b : Span) : Decidable (a < b) := inferInstanceAs (Decidable (a.nanos < b.nanos))

theorem le_iff (a b : Span) : a ≤ b ↔ a.nanos ≤ b.nanos := Iff.rfl

theorem lt_iff (a b : Span) : a < b ↔ a.nanos < b.nanos := Iff.rfl

end Span

end SwarmChart
