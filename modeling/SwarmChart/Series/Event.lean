import SwarmChart.Participant
import SwarmChart.Window

/-!
# Events

What moves a counter inside a window. Every participant that has an opening emits its opening and
then its closing, each only if it is recent (`emitted`). `events` sorts the emissions of a whole
swarm by instant, behind a boundary at the start of the window and before one at its finish. The
sort keeps the order of emission among events of one instant.
-/

set_option autoImplicit false

namespace SwarmChart.Series

/-- What an event does to the counter. -/
inductive Tag where
  | increase
  | decrease
  /-- An edge of the window, which moves nothing. -/
  | boundary
  deriving DecidableEq, Repr

namespace Tag

/-- The change of the counter. -/
def delta : Tag → Int
  | increase => 1
  | decrease => -1
  | boundary => 0

/-- The word for a tag. -/
def name : Tag → String
  | increase => "increase"
  | decrease => "decrease"
  | boundary => "boundary"

end Tag

/-- A tag at an instant. -/
structure Event where
  instant : Instant
  tag : Tag
  deriving DecidableEq, Repr

/-- The event that a recent instant gives rise to. -/
def eventIfRecent (window : Window) (tag : Tag) : Option Instant → List Event
  | some instant => if window.isRecent instant then [⟨instant, tag⟩] else []
  | none => []

/-- The events of one participant, the opening before the closing. -/
def emitted (metric : Metric) (window : Window) (participant : Participant) : List Event :=
  eventIfRecent window .increase (metric.opening? participant)
    ++ eventIfRecent window .decrease (metric.closing? participant)

/-- The start of the window and the events of all participants, in the order of emission. -/
def emissions (participants : List Participant) (metric : Metric) (window : Window) : List Event :=
  ⟨window.effectiveStart, .boundary⟩ :: participants.flatMap (emitted metric window)

/-- The events of a swarm within the window, in the order in which they move the counter. -/
def events (participants : List Participant) (metric : Metric) (window : Window) : List Event :=
  (emissions participants metric window).mergeSort (fun a b => a.instant ≤ b.instant)
    ++ [⟨window.finish, .boundary⟩]

end SwarmChart.Series
