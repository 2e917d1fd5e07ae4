import SwarmChart.Proofs.Series.Collapse
import SwarmChart.Proofs.Series.CountedOnce
import SwarmChart.Proofs.Series.Rescan

/-!
# Completed participants are connected ones

Whoever is consistent and counts as completed at an instant also counts as connected there, so one
baseline never exceeds the other (`Series.nested_baseline`). In a window on whose start nothing
happens, the count that a series holds at an instant is the baseline of that instant
(`Series.countAt_ofSwarm`), and its final count is the baseline of an instant behind everything
recorded. Both series of a swarm are therefore nested like their baselines
(`Series.completion_nested_in_activity`), although their points lie at different instants.
-/

set_option autoImplicit false

namespace SwarmChart

/-- The instants of the recorded life. -/
def Participant.moments (participant : Participant) : List Instant :=
  participant.connectedAt :: participant.disconnectedAt.toList ++ participant.completedAt.toList

theorem Metric.mem_moments_of_mem_edges {metric : Metric} {participant : Participant}
    {instant : Instant} (edge : instant ∈ metric.edges participant) :
    instant ∈ participant.moments := by
  rw [Participant.moments, List.cons_append, List.mem_cons, List.mem_append, Option.mem_toList,
    Option.mem_toList]
  rcases Metric.mem_edges.1 edge with opens | closes
  · cases metric with
    | activity =>
      cases opens
      exact Or.inl rfl
    | completion => exact Or.inr (Or.inr opens)
  · cases opens : metric.opening? participant with
    | none =>
      rw [Metric.closing?_of_none opens] at closes
      cases closes
    | some opening =>
      rw [Metric.closing?_of_some opens] at closes
      exact Or.inr (Or.inl closes)

namespace Series

/-- A count of the completed and one of the connected among so many participants. -/
structure Nested (number : Nat) (completed active : Int) : Prop where
  nonneg : 0 ≤ completed
  completed_le : completed ≤ active
  active_le : active ≤ number

/-- The count that the points of a series without the final one hold at an instant. -/
def countAt (t : Instant) (points : List Point) : Option Int :=
  (pointsUpTo t points.dropLast).getLast?.map Point.count

/-- The count of the final point of a series. -/
def finalCount (points : List Point) : Option Int := points.getLast?.map Point.count

/-- Both series of a swarm have such a count, and the two are nested. -/
def NestedBy (count? : List Point → Option Int) (participants : List Participant)
    (window : Window) : Prop :=
  ∃ completed active, count? (ofSwarm participants .completion window) = some completed ∧
    count? (ofSwarm participants .activity window) = some active ∧
    Nested participants.length completed active

variable {participants : List Participant} {metric : Metric} {window : Window} {t : Instant}

/-! ## Baselines -/

/-- Whoever is counted as completed is counted as connected. -/
theorem isCounted_activity {participant : Participant} (consistent : participant.Consistent)
    (counted : isCounted .completion t participant = true) :
    isCounted .activity t participant = true := by
  obtain ⟨completed, completes, upTo, stillOpen⟩ := isCounted_iff.1 counted
  have inOrder := consistent.connected_le_completed completed completes
  refine isCounted_iff.2 ⟨participant.connectedAt, rfl, Std.le_trans inOrder upTo, ?_⟩
  intro closing closes
  apply stillOpen
  rw [Metric.closing?_of_some completes]
  exact closes

/-- The two baselines are nested at every instant. -/
theorem nested_baseline (consistent : ∀ participant ∈ participants, participant.Consistent)
    (t : Instant) :
    Nested participants.length (baseline participants .completion t)
      (baseline participants .activity t) where
  nonneg := Int.natCast_nonneg _
  completed_le := Int.ofNat_le.2 <| List.countP_mono_left fun participant among =>
    isCounted_activity (consistent participant among)
  active_le := Int.ofNat_le.2 List.countP_le_length

theorem inversions_of_consistent
    (consistent : ∀ participant ∈ participants, participant.Consistent) (metric : Metric)
    (t : Instant) : inversions participants metric t = 0 := by
  refine inversions_eq_zero_iff.2 fun participant among => isInverted_of_inOrder ?_
  intro opening opens closing closes
  exact Metric.opening_le_closing (consistent participant among) opens closes

theorem edgeBalance_of_not_mem
    (apart : ∀ participant ∈ participants, t ∉ metric.edges participant) :
    edgeBalance participants metric t = 0 := by
  have openings :
      participants.countP (fun participant => metric.opening? participant = some t) = 0 :=
    List.countP_eq_zero.2 fun participant among opens =>
      apart participant among (Metric.mem_edges.2 (Or.inl (of_decide_eq_true opens)))
  have closings :
      participants.countP (fun participant => metric.closing? participant = some t) = 0 :=
    List.countP_eq_zero.2 fun participant among closes =>
      apart participant among (Metric.mem_edges.2 (Or.inr (of_decide_eq_true closes)))
  rw [edgeBalance, openings, closings]
  rfl

/-! ## The counts of a series -/

/-- There is an instant behind the given one and all events. -/
theorem exists_behind (start : Instant) (events : List Event) :
    ∃ t, start ≤ t ∧ ∀ event ∈ events, event.instant ≤ t := by
  induction events with
  | nil => exact ⟨start, Std.le_refl _, fun _ member => absurd member List.not_mem_nil⟩
  | cons event events ih =>
    obtain ⟨t, after, behind⟩ := ih
    by_cases upTo : event.instant ≤ t
    · exact ⟨t, after, List.forall_mem_cons.2 ⟨upTo, behind⟩⟩
    · have later : t ≤ event.instant := Std.le_of_not_ge upTo
      refine ⟨event.instant, Std.le_trans after later, List.forall_mem_cons.2 ⟨Std.le_refl _, ?_⟩⟩
      exact fun other member => Std.le_trans (behind other member) later

section Quiet

variable (consistent : ∀ participant ∈ participants, participant.Consistent)
  (recency : ∀ participant ∈ participants, ∀ edge ∈ metric.edges participant,
    (window.isRecent edge = true ↔ window.start ≤ edge))
  (quiet : ∀ participant ∈ participants, window.start ∉ metric.edges participant)
  (nonempty : window.isEmpty = false)

include consistent recency quiet

/-- Without edges on the start the events lead from its baseline to that of any later instant. -/
theorem baseline_add_total (after : window.start ≤ t) :
    baseline participants metric window.start +
        total (eventsUpTo t (allEmitted participants metric window)) =
      baseline participants metric t := by
  have scan := seed_add_total recency after
  rw [edgeBalance_of_not_mem quiet, inversions_of_consistent consistent,
    inversions_of_consistent consistent] at scan
  omega

include nonempty

omit consistent quiet in
/-- Nothing is emitted from before the start. -/
theorem start_le_of_mem_allEmitted :
    ∀ event ∈ allEmitted participants metric window, window.effectiveStart ≤ event.instant := by
  intro event member
  obtain ⟨recent, participant, among, edge⟩ := exists_mem_allEmitted_iff.1 ⟨event, member, rfl⟩
  rw [Window.effectiveStart_of_not_isEmpty nonempty]
  exact (recency participant among event.instant edge).1 recent

/-- From the start on a series holds the baseline of every instant. -/
theorem countAt_ofSwarm (after : window.start ≤ t) :
    countAt t (ofSwarm participants metric window) = some ↑(baseline participants metric t) := by
  have fromStart := start_le_of_mem_allEmitted recency nonempty
  have ascending : Ascending (⟨window.effectiveStart, .boundary⟩ ::
      chronological (allEmitted participants metric window)) :=
    ascending_cons_chronological fromStart
  rw [countAt, ofSwarm_of_le fromStart, List.dropLast_concat]
  rw [Window.effectiveStart_of_not_isEmpty nonempty] at ascending ⊢
  rw [getLast?_pointsUpTo ascending after, total_eventsUpTo_chronological,
    baseline_add_total consistent recency quiet after]

/-- Once all events are past, the final point holds the baseline as well. -/
theorem finalCount_ofSwarm (after : window.start ≤ t)
    (behind : ∀ event ∈ allEmitted participants metric window, event.instant ≤ t) :
    finalCount (ofSwarm participants metric window) = some ↑(baseline participants metric t) := by
  have all : eventsUpTo t (allEmitted participants metric window) =
      allEmitted participants metric window :=
    List.filter_eq_self.2 fun event member => decide_eq_true (behind event member)
  rw [finalCount, ofSwarm_of_le (start_le_of_mem_allEmitted recency nonempty),
    List.getLast?_concat, Option.map_some, total_chronological,
    Window.effectiveStart_of_not_isEmpty nonempty, ← all,
    baseline_add_total consistent recency quiet after]

end Quiet

/-! ## Both metrics -/

/-- Over an empty window both series hold the baselines of its finish. -/
theorem nestedBy_of_isEmpty (consistent : ∀ participant ∈ participants, participant.Consistent)
    (empty : window.isEmpty = true) :
    (∀ t, window.finish ≤ t → NestedBy (countAt t) participants window) ∧
      NestedBy finalCount participants window := by
  have series := (collapsed_of_isEmpty empty).series participants
  have nested := nested_baseline consistent window.finish
  constructor
  · intro t after
    have first (count : Int) :
        countAt t [⟨window.finish, count⟩, ⟨window.finish, count⟩] = some count := by
      have upTo : pointsUpTo t [(⟨window.finish, count⟩ : Point)] = [⟨window.finish, count⟩] :=
        pointsUpTo_cons_of_le after []
      exact congrArg (fun points => points.getLast?.map Point.count) upTo
    refine ⟨_, _, ?_, ?_, nested⟩
    · rw [series, first]
    · rw [series, first]
  · refine ⟨_, _, ?_, ?_, nested⟩
    · rw [series]
      rfl
    · rw [series]
      rfl

/-- Consistent participants keep the count of the completed between zero and the count of the
connected, and that one within their number: at every instant for the baselines, and for the two
series at every instant from the start on and at their ends, if the window is empty or if all the
instants are ordinary and none lies on the start. -/
theorem completion_nested_in_activity {now : Instant} {span : Span}
    (consistent : ∀ participant ∈ participants, participant.Consistent) :
    (∀ t, Nested participants.length (baseline participants .completion t)
        (baseline participants .activity t)) ∧
      ((Window.trailing now span).isEmpty = true →
        (∀ t, now ≤ t → NestedBy (countAt t) participants (.trailing now span)) ∧
          NestedBy finalCount participants (.trailing now span)) ∧
      (now.inRange = true → now.Ordinary → (Window.trailing now span).isEmpty = false →
        (∀ participant ∈ participants, ∀ moment ∈ participant.moments,
          moment.inRange = true ∧ moment.Ordinary ∧ moment ≠ (Window.trailing now span).start) →
        (∀ t, (Window.trailing now span).start ≤ t →
            NestedBy (countAt t) participants (.trailing now span)) ∧
          NestedBy finalCount participants (.trailing now span)) := by
  refine ⟨nested_baseline consistent, nestedBy_of_isEmpty consistent, ?_⟩
  intro inRange ordinary nonempty moments
  have edges (metric : Metric) : OrdinaryEdges metric participants := by
    intro participant among edge isEdge
    obtain ⟨edgeInRange, edgeOrdinary, -⟩ :=
      moments participant among edge (Metric.mem_moments_of_mem_edges isEdge)
    exact ⟨edgeInRange, edgeOrdinary⟩
  have quiet (metric : Metric) : ∀ participant ∈ participants,
      (Window.trailing now span).start ∉ metric.edges participant := by
    intro participant among isEdge
    exact (moments participant among _ (Metric.mem_moments_of_mem_edges isEdge)).2.2 rfl
  have recency (metric : Metric) :=
    isRecent_iff_of_ordinary inRange ordinary (edges metric) nonempty
  constructor
  · intro t after
    exact ⟨_, _, countAt_ofSwarm consistent (recency _) (quiet _) nonempty after,
      countAt_ofSwarm consistent (recency _) (quiet _) nonempty after,
      nested_baseline consistent t⟩
  -- One instant behind the events of both metrics gives both final counts.
  · obtain ⟨t, after, behind⟩ := exists_behind (Window.trailing now span).start
      (allEmitted participants .completion (.trailing now span) ++
        allEmitted participants .activity (.trailing now span))
    obtain ⟨behindCompletion, behindActivity⟩ := List.forall_mem_append.1 behind
    exact ⟨_, _,
      finalCount_ofSwarm consistent (recency _) (quiet _) nonempty after behindCompletion,
      finalCount_ofSwarm consistent (recency _) (quiet _) nonempty after behindActivity,
      nested_baseline consistent t⟩

/-- A participant that connects, completes and leaves within the hour before noon, between its
completing and its leaving. -/
theorem completion_nested_within_hour :
    NestedBy (countAt ⟨1654859900, 0⟩)
      [⟨⟨1654859400, 0⟩, some ⟨1654860000, 0⟩, some ⟨1654859700, 0⟩⟩]
      (.trailing ⟨1654862400, 0⟩ ⟨3600000000000⟩) := by
  have consistent : ∀ participant ∈
      [(⟨⟨1654859400, 0⟩, some ⟨1654860000, 0⟩, some ⟨1654859700, 0⟩⟩ : Participant)],
      participant.Consistent := by
    rw [List.forall_mem_singleton]
    constructor
    · rintro _ ⟨⟩
      decide
    · rintro _ ⟨⟩
      decide
    · rintro _ ⟨⟩ _ ⟨⟩
      decide
  have nested := (completion_nested_in_activity consistent).2.2
    (by decide : (⟨1654862400, 0⟩ : Instant).inRange = true) (by decide)
    (by decide : (Window.trailing ⟨1654862400, 0⟩ ⟨3600000000000⟩).isEmpty = false) (by decide)
  exact nested.1 _ (by decide)

end Series

end SwarmChart
