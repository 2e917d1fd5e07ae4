import SwarmChart.Proofs.Series.Rescan
import SwarmChart.Proofs.Series.Stability

/-!
# The baseline against a replay of everything

The baseline looks at each participant once and asks whether it is counted at an instant. A replay
goes through all events of all participants, whatever the window, and adds up those that have
happened by then (`Series.recount`). The two differ by the participants that have closed by the
instant but open only after it (`Series.baseline_eq_recount_add`), so they agree wherever no
participant is inverted, and nowhere else (`Series.baseline_recount`).
-/

set_option autoImplicit false

namespace SwarmChart.Series

/-- What all events up to the instant add up to, over the whole lives of the participants. -/
def recount (participants : List Participant) (metric : Metric) (t : Instant) : Int :=
  total (eventsUpTo t (participants.flatMap (history metric)))

variable {participants : List Participant} {participant : Participant} {metric : Metric}
  {t : Instant}

/-! ## The replay -/

theorem total_eventsUpTo_edge (tag : Tag) (t : Instant) (edge? : Option Instant) :
    total (eventsUpTo t (edge?.toList.map fun instant => ⟨instant, tag⟩)) =
      tag.delta * (edge?.any (· ≤ t)).toNat := by
  cases edge? with
  | none => exact (Int.mul_zero _).symm
  | some edge => by_cases upTo : edge ≤ t <;> simp [eventsUpTo, upTo]

/-- What a participant does up to an instant is its opening less its closing, as far as they are
reached. -/
theorem total_eventsUpTo_history (metric : Metric) (t : Instant) (participant : Participant) :
    total (eventsUpTo t (history metric participant)) =
      ((metric.opening? participant).any (· ≤ t)).toNat -
        ((metric.closing? participant).any (· ≤ t)).toNat := by
  rw [history_eq, eventsUpTo_append, total_append, total_eventsUpTo_edge, total_eventsUpTo_edge,
    Tag.delta, Tag.delta]
  omega

/-- A replay adds up what has opened and takes off what has closed. -/
theorem recount_eq (participants : List Participant) (metric : Metric) (t : Instant) :
    recount participants metric t =
      reached metric.opening? participants t - reached metric.closing? participants t := by
  induction participants with
  | nil => rfl
  | cons participant participants ih =>
    have own := total_eventsUpTo_history metric t participant
    rw [recount] at ih
    rw [recount, List.flatMap_cons, eventsUpTo_append, total_append, own, ih]
    simp only [reached, countP_cons_toNat]
    omega

/-- The events of whole lives, replayed from nothing behind an origin before all of them. -/
theorem getLast?_replay_history {origin : Instant}
    (first : ∀ event ∈ participants.flatMap (history metric), origin ≤ event.instant)
    (begun : origin ≤ t) :
    (pointsUpTo t (replay 0 (⟨origin, .boundary⟩ ::
        chronological (participants.flatMap (history metric))))).getLast?.map Point.count =
      some (recount participants metric t) := by
  have ascending : Ascending (⟨origin, .boundary⟩ ::
      chronological (participants.flatMap (history metric))) := ascending_cons_chronological first
  rw [getLast?_pointsUpTo ascending begun, total_eventsUpTo_chronological, Int.zero_add, recount]

/-! ## The difference -/

/-- The baseline is the replay without what the inverted participants take off. -/
theorem baseline_eq_recount_add (participants : List Participant) (metric : Metric) (t : Instant) :
    (baseline participants metric t : Int) =
      recount participants metric t + inversions participants metric t := by
  have balance := baseline_add_reached participants metric t
  rw [recount_eq]
  omega

/-- The baseline at an instant is what has opened by then, less what has closed, and what has closed
without having opened. So it is the replay of all events up to that instant if and only if no
participant is inverted there, and at every instant if all participants open no later than they
close. -/
theorem baseline_recount (participants : List Participant) (metric : Metric) (t : Instant) :
    (baseline participants metric t : Int) =
        reached metric.opening? participants t - reached metric.closing? participants t +
          inversions participants metric t ∧
      (baseline participants metric t = recount participants metric t ↔
        ∀ participant ∈ participants, isInverted metric t participant = false) ∧
      ((∀ participant ∈ participants, InOrder metric participant) →
        baseline participants metric t = recount participants metric t) ∧
      ∀ origin, (∀ event ∈ participants.flatMap (history metric), origin ≤ event.instant) →
        origin ≤ t →
        (pointsUpTo t (replay 0 (⟨origin, .boundary⟩ ::
            chronological (participants.flatMap (history metric))))).getLast?.map Point.count =
          some (recount participants metric t) := by
  have difference := baseline_eq_recount_add participants metric t
  have agree : (baseline participants metric t : Int) = recount participants metric t ↔
      ∀ participant ∈ participants, isInverted metric t participant = false := by
    rw [← inversions_eq_zero_iff]
    omega
  refine ⟨?_, agree, ?_, ?_⟩
  · rw [difference, recount_eq]
  · intro inOrder
    apply agree.2
    intro participant among
    exact isInverted_of_inOrder (inOrder participant among)
  · intro origin first begun
    exact getLast?_replay_history first begun

/-- One participant connects an hour before noon, another half an hour later, and both leave at that
moment. Where the completion of a participant comes only after it has left, the replay falls
short of the baseline between the two. -/
theorem baseline_recount_half_past_eleven :
    (baseline [⟨⟨1654858800, 0⟩, some ⟨1654860600, 0⟩, none⟩,
        ⟨⟨1654860600, 0⟩, some ⟨1654860600, 0⟩, none⟩] .activity ⟨1654860600, 0⟩ : Int) =
      recount [⟨⟨1654858800, 0⟩, some ⟨1654860600, 0⟩, none⟩,
        ⟨⟨1654860600, 0⟩, some ⟨1654860600, 0⟩, none⟩] .activity ⟨1654860600, 0⟩ ∧
    (pointsUpTo ⟨1654860600, 0⟩ (replay 0 (⟨⟨1654855200, 0⟩, .boundary⟩ :: chronological
        ([⟨⟨1654858800, 0⟩, some ⟨1654860600, 0⟩, none⟩].flatMap
          (history .activity))))).getLast?.map Point.count = some 0 ∧
    (baseline [⟨⟨1654858800, 0⟩, some ⟨1654859400, 0⟩, some ⟨1654862400, 0⟩⟩] .completion
        ⟨1654860600, 0⟩ : Int) ≠
      recount [⟨⟨1654858800, 0⟩, some ⟨1654859400, 0⟩, some ⟨1654862400, 0⟩⟩] .completion
        ⟨1654860600, 0⟩ := by
  refine ⟨?_, ?_, ?_⟩
  · exact (baseline_recount _ .activity ⟨1654860600, 0⟩).2.2.1 (by decide)
  · exact (baseline_recount _ .activity ⟨1654860600, 0⟩).2.2.2 ⟨1654855200, 0⟩ (by decide)
      (by decide)
  · intro agree
    exact absurd ((baseline_recount _ .completion ⟨1654860600, 0⟩).2.1.1 agree) (by decide)

end SwarmChart.Series
