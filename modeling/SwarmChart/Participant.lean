import SwarmChart.Instant

/-!
# Participants and metrics

A participant of a swarm connects once and may complete its download and disconnect. A metric says
which participants a series counts, and so which of a participant's instants opens its share in
the count (`Metric.opening?`); leaving the swarm closes it for both metrics.
-/

set_option autoImplicit false

namespace SwarmChart

/-- The recorded life of one participant. -/
structure Participant where
  connectedAt : Instant
  /-- A participant without a disconnection is still connected. -/
  disconnectedAt : Option Instant
  completedAt : Option Instant
  deriving DecidableEq, Repr

/-- The participant is connected strictly after the instant. -/
def Participant.connectedAfter (participant : Participant) (instant : Instant) : Bool :=
  match participant.disconnectedAt with
  | none => true
  | some closing => instant < closing

/-- What a series of a swarm counts. -/
inductive Metric where
  /-- Connected participants. -/
  | activity
  /-- Connected participants that have completed. -/
  | completion
  deriving DecidableEq, Repr

namespace Metric

/-- The word for a metric. -/
def name : Metric → String
  | activity => "activity"
  | completion => "completion"

/-- The instant from which a participant counts, if it ever counts. -/
def opening? (metric : Metric) (participant : Participant) : Option Instant :=
  match metric with
  | activity => some participant.connectedAt
  | completion => participant.completedAt

/-- The instant from which a participant that once counted no longer counts. -/
def closing? (metric : Metric) (participant : Participant) : Option Instant :=
  match metric.opening? participant with
  | none => none
  | some _ => participant.disconnectedAt

end Metric

end SwarmChart
