import SwarmChart.Proofs.Series.Edges

/-!
# The instants of a series

Up to its final point a series runs forward from the start of the window. The final point stands at
the finish, and since what lies after the finish is recent too, the series runs forward as a whole
and stays inside the window exactly when nothing of the kind is emitted
(`Series.ofSwarm_chronological_iff`).
-/

set_option autoImplicit false

namespace SwarmChart.Series

variable {participants : List Participant} {metric : Metric} {window : Window}

/-- The instants do not go back in time. -/
def Forward (points : List Point) : Prop :=
  points.Pairwise fun earlier later => earlier.instant ≤ later.instant

/-- The instants of the points lie between the two. -/
def Within (first last : Instant) (points : List Point) : Prop :=
  ∀ point ∈ points, first ≤ point.instant ∧ point.instant ≤ last

instance (points : List Point) : Decidable (Forward points) :=
  inferInstanceAs (Decidable (points.Pairwise fun earlier later =>
    earlier.instant ≤ later.instant))

instance (first last : Instant) (points : List Point) : Decidable (Within first last points) :=
  inferInstanceAs (Decidable (∀ point ∈ points, first ≤ point.instant ∧ point.instant ≤ last))

/-! ## Series and events -/

theorem forward_iff_ascending {points : List Point} {events : List Event}
    (same : points.map Point.instant = events.map Event.instant) :
    Forward points ↔ Ascending events := by
  have pointwise : Forward points ↔ (points.map Point.instant).Pairwise (· ≤ ·) :=
    List.pairwise_map.symm
  have eventwise : Ascending events ↔ (events.map Event.instant).Pairwise (· ≤ ·) :=
    List.pairwise_map.symm
  rw [pointwise, eventwise, same]

theorem forall_instant_iff {points : List Point} {events : List Event}
    (same : points.map Point.instant = events.map Event.instant) (p : Instant → Prop) :
    (∀ point ∈ points, p point.instant) ↔ ∀ event ∈ events, p event.instant := by
  have pointwise : (∀ instant ∈ points.map Point.instant, p instant) ↔
      ∀ point ∈ points, p point.instant := List.forall_mem_map
  have eventwise : (∀ instant ∈ events.map Event.instant, p instant) ↔
      ∀ event ∈ events, p event.instant := List.forall_mem_map
  rw [← pointwise, ← eventwise, same]

section FromStart

variable (fromStart : ∀ event ∈ allEmitted participants metric window,
  window.effectiveStart ≤ event.instant)

include fromStart

/-- Up to the final point a series stands at its start and then at its sorted events. -/
theorem map_instant_dropLast_ofSwarm :
    (ofSwarm participants metric window).dropLast.map Point.instant =
      ((⟨window.effectiveStart, .boundary⟩ : Event) ::
        chronological (allEmitted participants metric window)).map Event.instant := by
  rw [ofSwarm_of_le fromStart, List.dropLast_concat, map_instant_replay]

/-- Up to its final point every series goes forward in time. -/
theorem forward_dropLast_ofSwarm : Forward (ofSwarm participants metric window).dropLast := by
  rw [forward_iff_ascending (map_instant_dropLast_ofSwarm fromStart)]
  exact ascending_cons_chronological fromStart

/-- No point stands before the start of the window. -/
theorem effectiveStart_le_dropLast_ofSwarm :
    ∀ point ∈ (ofSwarm participants metric window).dropLast,
      window.effectiveStart ≤ point.instant := by
  rw [forall_instant_iff (map_instant_dropLast_ofSwarm fromStart) (window.effectiveStart ≤ ·)]
  intro event member
  rcases List.mem_cons.1 member with rfl | member
  · exact Std.le_refl _
  · exact fromStart event ((chronological_perm _).mem_iff.1 member)

/-- The points stay before the finish if the events do that they stand at. -/
theorem dropLast_ofSwarm_le_finish_iff :
    (∀ point ∈ (ofSwarm participants metric window).dropLast, point.instant ≤ window.finish) ↔
      ∀ event ∈ allEmitted participants metric window, event.instant ≤ window.finish := by
  rw [forall_instant_iff (map_instant_dropLast_ofSwarm fromStart) (· ≤ window.finish)]
  constructor
  · intro upTo event member
    exact upTo event (List.mem_cons_of_mem _ ((chronological_perm _).mem_iff.2 member))
  · intro noneAfter event member
    rcases List.mem_cons.1 member with rfl | member
    · exact window.effectiveStart_le_finish
    · exact noneAfter event ((chronological_perm _).mem_iff.1 member)

/-- The whole series runs forward inside the window exactly when nothing is emitted from after its
finish. -/
theorem forward_within_iff :
    (Forward (ofSwarm participants metric window) ∧
        Within window.effectiveStart window.finish (ofSwarm participants metric window)) ↔
      ∀ event ∈ allEmitted participants metric window, event.instant ≤ window.finish := by
  have series : ofSwarm participants metric window =
      (ofSwarm participants metric window).dropLast ++
        [⟨window.finish, baseline participants metric window.effectiveStart +
          total (chronological (allEmitted participants metric window))⟩] := by
    rw [ofSwarm_of_le fromStart, List.dropLast_concat]
  rw [← dropLast_ofSwarm_le_finish_iff fromStart]
  constructor
  · rintro ⟨-, within⟩ point member
    exact (within point (List.dropLast_subset _ member)).2
  · intro upTo
    have forward := forward_dropLast_ofSwarm fromStart
    have after := effectiveStart_le_dropLast_ofSwarm fromStart
    rw [series]
    constructor
    · refine List.pairwise_append.2 ⟨forward, List.pairwise_singleton _ _, ?_⟩
      intro point member last isLast
      rw [List.mem_singleton.1 isLast]
      exact upTo point member
    · intro point member
      rcases List.mem_append.1 member with member | member
      · exact ⟨after point member, upTo point member⟩
      · rw [List.mem_singleton.1 member]
        exact ⟨window.effectiveStart_le_finish, Std.le_refl _⟩

end FromStart

/-! ## Ordinary edges -/

variable {now : Instant} {span : Span}

/-- What is emitted from after the finish are the edges that lie after it. -/
theorem allEmitted_le_iff (inRange : now.inRange = true) (ordinary : now.Ordinary)
    (edges : OrdinaryEdges metric participants) :
    (∀ event ∈ allEmitted participants metric (.trailing now span), event.instant ≤ now) ↔
      (Window.trailing now span).isEmpty = true ∨
        ∀ participant ∈ participants, ∀ edge ∈ metric.edges participant, edge ≤ now := by
  constructor
  · intro noneAfter
    cases h : (Window.trailing now span).isEmpty with
    | true => exact Or.inl rfl
    | false =>
      right
      intro participant among edge isEdge
      apply Std.not_lt.1
      intro after
      have before := (Window.isEmpty_eq_false_iff _).1 h
      have recent : (Window.trailing now span).isRecent edge = true := by
        rw [isRecent_iff_of_ordinary inRange ordinary edges h participant among edge isEdge]
        exact Std.le_of_lt (Std.lt_trans before after)
      obtain ⟨event, member, rfl⟩ :=
        exists_mem_allEmitted_iff.2 ⟨recent, participant, among, isEdge⟩
      exact Std.not_le.2 after (noneAfter event member)
  · rintro (empty | noneAfter) event member
    · rw [allEmitted_of_isEmpty empty] at member
      cases member
    · obtain ⟨-, participant, among, edge⟩ := exists_mem_allEmitted_iff.1 ⟨event, member, rfl⟩
      exact noneAfter participant among event.instant edge

/-- The series of ordinary edges: forward from the start up to its final point, which stands at the
finish, and forward inside the window as a whole unless an edge lies after the finish. -/
theorem ofSwarm_chronological_iff (inRange : now.inRange = true) (ordinary : now.Ordinary)
    (edges : OrdinaryEdges metric participants) :
    (Forward (ofSwarm participants metric (.trailing now span)).dropLast ∧
        (∀ point ∈ (ofSwarm participants metric (.trailing now span)).dropLast,
          (Window.trailing now span).effectiveStart ≤ point.instant) ∧
        (ofSwarm participants metric (.trailing now span)).getLast?.map Point.instant = some now) ∧
      ((Forward (ofSwarm participants metric (.trailing now span)) ∧
          Within (Window.trailing now span).effectiveStart now
            (ofSwarm participants metric (.trailing now span))) ↔
        (Window.trailing now span).isEmpty = true ∨
          ∀ participant ∈ participants, ∀ edge ∈ metric.edges participant, edge ≤ now) := by
  have fromStart := effectiveStart_le_of_mem_allEmitted inRange ordinary edges span
  refine ⟨⟨?_, ?_, ?_⟩, ?_⟩
  · exact forward_dropLast_ofSwarm fromStart
  · exact effectiveStart_le_dropLast_ofSwarm fromStart
  · rw [ofSwarm_of_le fromStart, List.getLast?_concat]
    rfl
  · rw [← allEmitted_le_iff inRange ordinary edges]
    exact forward_within_iff fromStart

/-- A participant that connects and leaves within the hour before noon. -/
theorem ofSwarm_chronological_within_hour :
    Forward (ofSwarm [⟨⟨1654859400, 0⟩, some ⟨1654860000, 0⟩, none⟩] .activity
        (.trailing ⟨1654862400, 0⟩ ⟨3600000000000⟩)) ∧
      Within ⟨1654858800, 0⟩ ⟨1654862400, 0⟩
        (ofSwarm [⟨⟨1654859400, 0⟩, some ⟨1654860000, 0⟩, none⟩] .activity
          (.trailing ⟨1654862400, 0⟩ ⟨3600000000000⟩)) :=
  have chronological := ofSwarm_chronological_iff
    (by decide : (⟨1654862400, 0⟩ : Instant).inRange = true) (by decide)
    (by decide : OrdinaryEdges .activity [⟨⟨1654859400, 0⟩, some ⟨1654860000, 0⟩, none⟩])
  chronological.2.2 (Or.inr (by decide))

/-- A participant that connects five minutes after noon is drawn behind the finish at noon, and the
final point leads back to it. -/
theorem not_forward_after_finish :
    OrdinaryEdges .activity [⟨⟨1654862700, 0⟩, none, none⟩] ∧
      ¬ Forward (ofSwarm [⟨⟨1654862700, 0⟩, none, none⟩] .activity
        (.trailing ⟨1654862400, 0⟩ ⟨3600000000000⟩)) ∧
      ¬ Within ⟨1654858800, 0⟩ ⟨1654862400, 0⟩
        (ofSwarm [⟨⟨1654862700, 0⟩, none, none⟩] .activity
          (.trailing ⟨1654862400, 0⟩ ⟨3600000000000⟩)) := by
  rw [ofSwarm_of_ascending (by decide)]
  decide

end SwarmChart.Series
