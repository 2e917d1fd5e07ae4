import SwarmChart.Series.Event

/-!
# Replaying events

`baseline` counts the participants that are counted exactly at an instant, from their whole
recorded lives. It looks at no window, so a participant that connected long ago and is still there
is counted.

`replay` turns a list of events into a step series: the first event carries the count it starts
from, and each later event moves the count by the change that its tag makes. `ofSwarm` does so for
the events of a swarm in a window, from the count at the start of that window.
-/

set_option autoImplicit false

namespace SwarmChart.Series

/-! ## The count at one instant -/

/-- The participant is counted at the instant: it has opened by then and closes only later. -/
def isCounted (metric : Metric) (instant : Instant) (participant : Participant) : Bool :=
  match metric.opening? participant with
  | none => false
  | some opening => opening ≤ instant && participant.connectedAfter instant

/-- The number of participants counted at the instant. -/
def baseline (participants : List Participant) (metric : Metric) (instant : Instant) : Nat :=
  participants.countP (isCounted metric instant)

/-! ## The count along events -/

/-- One step of a series: from the instant on, the count holds. -/
structure Point where
  instant : Instant
  count : Int
  deriving DecidableEq, Repr

/-- The points of events that follow an event of the given count. -/
def steps : Int → List Event → List Point
  | _, [] => []
  | count, event :: later =>
    let moved := count + event.tag.delta
    ⟨event.instant, moved⟩ :: steps moved later

/-- The series of a list of events whose first one carries the count `seed`. -/
def replay (seed : Int) : List Event → List Point
  | [] => []
  | first :: later => ⟨first.instant, seed⟩ :: steps seed later

/-- The series of a metric for one swarm over a window. -/
def ofSwarm (participants : List Participant) (metric : Metric) (window : Window) : List Point :=
  replay (baseline participants metric window.effectiveStart) (events participants metric window)

end SwarmChart.Series
