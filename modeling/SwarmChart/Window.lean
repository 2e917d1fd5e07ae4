import SwarmChart.Instant

/-!
# Trailing windows

A window reaches back from the instant `finish`, which is the present, by a span. A start that the
calendar cannot hold becomes the end of the calendar on that side. A window whose start does not
lie before its finish is empty: nothing is recent in it, and for counting it begins at its finish
(`Window.effectiveStart`).

Whether an instant is recent is decided by the time gone by since it (`Window.isRecent`), so an
instant after the finish of a window that is not empty is recent too.
-/

set_option autoImplicit false

namespace SwarmChart

/-- A stretch of time that ends at the present. -/
structure Window where
  start : Instant
  finish : Instant
  /-- How far back the window was asked to reach. -/
  span : Span
  deriving DecidableEq, Repr

namespace Window

/-- The window that reaches back from `now` by `span`. -/
def trailing (now : Instant) (span : Span) : Window :=
  let start := now.advance (-span)
  -- A negative span moves the start forwards, so it is the other end that it can run over.
  let held :=
    if start.inRange then start
    else if Span.zero < span then Instant.earliest
    else Instant.latest
  ⟨held, now, span⟩

/-- The window does not reach into the past. -/
def isEmpty (window : Window) : Bool := window.finish ≤ window.start

/-- Where the window begins for counting. -/
def effectiveStart (window : Window) : Instant := window.start.earlier window.finish

/-- No more time than the window's span has gone by since the instant. -/
def isRecent (window : Window) (instant : Instant) : Bool :=
  !window.isEmpty && window.finish.since instant ≤ window.span

end Window

end SwarmChart
