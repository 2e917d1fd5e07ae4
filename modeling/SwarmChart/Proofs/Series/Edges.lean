import SwarmChart.Proofs.Series.Order
import SwarmChart.Proofs.Window.Recency

/-!
# The edges of the participants

A participant moves a count at its edges, its opening and its closing. Each edge of a swarm that is
recent gives one event, and nothing else does (`Series.exists_mem_allEmitted_iff`). Where recent
means not before the start of the window, the boundary at the start is therefore the first of all
events (`Series.ofSwarm_of_le`).
-/

set_option autoImplicit false

namespace SwarmChart

/-- The instants at which a participant may move the count. -/
def Metric.edges (metric : Metric) (participant : Participant) : List Instant :=
  (metric.opening? participant).toList ++ (metric.closing? participant).toList

namespace Metric

variable {metric : Metric} {participant : Participant} {instant opening : Instant}

theorem mem_edges : instant ∈ metric.edges participant ↔
    metric.opening? participant = some instant ∨ metric.closing? participant = some instant := by
  rw [edges, List.mem_append, Option.mem_toList, Option.mem_toList]

theorem closing?_of_none (never : metric.opening? participant = none) :
    metric.closing? participant = none := by
  rw [closing?, never]

theorem closing?_of_some (opens : metric.opening? participant = some opening) :
    metric.closing? participant = participant.disconnectedAt := by
  rw [closing?, opens]

end Metric

/-! ## The two ends of a window for counting -/

namespace Window

variable {window : Window}

theorem effectiveStart_of_not_isEmpty (nonempty : window.isEmpty = false) :
    window.effectiveStart = window.start := by
  have before := (isEmpty_eq_false_iff window).1 nonempty
  exact if_pos (Std.le_of_lt before)

theorem effectiveStart_of_isEmpty (empty : window.isEmpty = true) :
    window.effectiveStart = window.finish := by
  have notBefore : window.finish ≤ window.start := of_decide_eq_true empty
  rw [effectiveStart, Instant.earlier]
  split
  · next le => exact Std.le_antisymm le notBefore
  · rfl

/-- Counting starts no later than the finish, whatever the span. -/
theorem effectiveStart_le_finish (window : Window) : window.effectiveStart ≤ window.finish := by
  cases h : window.isEmpty with
  | true =>
    rw [effectiveStart_of_isEmpty h]
    exact Std.le_refl _
  | false =>
    rw [effectiveStart_of_not_isEmpty h]
    exact Std.le_of_lt ((isEmpty_eq_false_iff window).1 h)

end Window

namespace Series

variable {participants : List Participant} {metric : Metric} {window : Window}

/-- Every edge of the participants is an ordinary instant of the calendar range. -/
def OrdinaryEdges (metric : Metric) (participants : List Participant) : Prop :=
  ∀ participant ∈ participants, ∀ instant ∈ metric.edges participant,
    instant.inRange = true ∧ instant.Ordinary

instance : Decidable (OrdinaryEdges metric participants) :=
  inferInstanceAs (Decidable (∀ participant ∈ participants,
    ∀ instant ∈ metric.edges participant, instant.inRange = true ∧ instant.Ordinary))

theorem countP_cons_toNat {α : Type} (p : α → Bool) (a : α) (l : List α) :
    (a :: l).countP p = l.countP p + (p a).toNat := by
  rw [List.countP_cons]
  cases p a <;> rfl

/-! ## What is emitted -/

theorem eventIfRecent_some (window : Window) (tag : Tag) (instant : Instant) :
    eventIfRecent window tag (some instant) =
      if window.isRecent instant then [⟨instant, tag⟩] else [] := rfl

theorem eventIfRecent_none (window : Window) (tag : Tag) : eventIfRecent window tag none = [] := rfl

/-- The event of an edge is emitted if the edge is recent, under the tag that is asked for. -/
theorem mem_eventIfRecent {tag : Tag} {at? : Option Instant} {event : Event} :
    event ∈ eventIfRecent window tag at? ↔
      at? = some event.instant ∧ window.isRecent event.instant = true ∧ event.tag = tag := by
  cases at? with
  | none => simp [eventIfRecent_none]
  | some instant =>
    rw [eventIfRecent_some]
    split
    · next recent =>
      rw [List.mem_singleton]
      constructor
      · rintro rfl
        exact ⟨rfl, recent, rfl⟩
      · rintro ⟨same, -, rfl⟩
        cases same
        rfl
    · next old =>
      constructor
      · intro member
        cases member
      · rintro ⟨same, recent, -⟩
        cases same
        exact absurd recent old

/-- An event comes from a recent edge. -/
theorem mem_emitted {participant : Participant} {event : Event} :
    event ∈ emitted metric window participant ↔
      window.isRecent event.instant = true ∧
        ((metric.opening? participant = some event.instant ∧ event.tag = .increase) ∨
          (metric.closing? participant = some event.instant ∧ event.tag = .decrease)) := by
  rw [emitted, List.mem_append, mem_eventIfRecent, mem_eventIfRecent]
  constructor
  · rintro (⟨opens, recent, tag⟩ | ⟨closes, recent, tag⟩)
    · exact ⟨recent, Or.inl ⟨opens, tag⟩⟩
    · exact ⟨recent, Or.inr ⟨closes, tag⟩⟩
  · rintro ⟨recent, ⟨opens, tag⟩ | ⟨closes, tag⟩⟩
    · exact Or.inl ⟨opens, recent, tag⟩
    · exact Or.inr ⟨closes, recent, tag⟩

/-- Events are emitted at the recent edges of the participants and nowhere else. -/
theorem exists_mem_allEmitted_iff {instant : Instant} :
    (∃ event ∈ allEmitted participants metric window, event.instant = instant) ↔
      window.isRecent instant = true ∧
        ∃ participant ∈ participants, instant ∈ metric.edges participant := by
  constructor
  · rintro ⟨event, member, rfl⟩
    obtain ⟨participant, among, member⟩ := List.mem_flatMap.1 member
    obtain ⟨recent, ⟨opens, -⟩ | ⟨closes, -⟩⟩ := mem_emitted.1 member
    · exact ⟨recent, participant, among, Metric.mem_edges.2 (Or.inl opens)⟩
    · exact ⟨recent, participant, among, Metric.mem_edges.2 (Or.inr closes)⟩
  · rintro ⟨recent, participant, among, edge⟩
    rcases Metric.mem_edges.1 edge with opens | closes
    · refine ⟨⟨instant, .increase⟩, List.mem_flatMap.2 ⟨participant, among, ?_⟩, rfl⟩
      exact mem_emitted.2 ⟨recent, Or.inl ⟨opens, rfl⟩⟩
    · refine ⟨⟨instant, .decrease⟩, List.mem_flatMap.2 ⟨participant, among, ?_⟩, rfl⟩
      exact mem_emitted.2 ⟨recent, Or.inr ⟨closes, rfl⟩⟩

theorem allEmitted_of_isEmpty (empty : window.isEmpty = true) (participants : List Participant)
    (metric : Metric) : allEmitted participants metric window = [] := by
  apply List.eq_nil_iff_forall_not_mem.2
  intro event member
  obtain ⟨recent, -⟩ := exists_mem_allEmitted_iff.1 ⟨event, member, rfl⟩
  rw [Window.isRecent_of_isEmpty empty] at recent
  cases recent

/-- Where nothing is emitted from before the start, the series replays the sorted events from the
boundary at the start, and ends with a point that changes nothing. -/
theorem ofSwarm_of_le
    (fromStart : ∀ event ∈ allEmitted participants metric window,
      window.effectiveStart ≤ event.instant) :
    ofSwarm participants metric window =
      replay (baseline participants metric window.effectiveStart)
          (⟨window.effectiveStart, .boundary⟩ ::
            chronological (allEmitted participants metric window)) ++
        [⟨window.finish, baseline participants metric window.effectiveStart +
          total (chronological (allEmitted participants metric window))⟩] := by
  rw [ofSwarm, events_of_le fromStart, replay_concat, Tag.delta, Int.add_zero]

section Ordinary

variable {now : Instant} (inRange : now.inRange = true) (ordinary : now.Ordinary)
  (edges : OrdinaryEdges metric participants)

include inRange ordinary edges

/-- For ordinary edges and an ordinary present, recent means not before the start. -/
theorem isRecent_iff_of_ordinary {span : Span}
    (nonempty : (Window.trailing now span).isEmpty = false) :
    ∀ participant ∈ participants, ∀ edge ∈ metric.edges participant,
      ((Window.trailing now span).isRecent edge = true ↔
        (Window.trailing now span).start ≤ edge) := by
  intro participant among edge isEdge
  obtain ⟨edgeInRange, edgeOrdinary⟩ := edges participant among edge isEdge
  exact Window.isRecent_iff_start_le inRange ordinary nonempty edgeInRange edgeOrdinary

/-- Away from leap seconds nothing is emitted from before the start. -/
theorem effectiveStart_le_of_mem_allEmitted (span : Span) :
    ∀ event ∈ allEmitted participants metric (.trailing now span),
      (Window.trailing now span).effectiveStart ≤ event.instant := by
  intro event member
  obtain ⟨recent, participant, among, edge⟩ := exists_mem_allEmitted_iff.1 ⟨event, member, rfl⟩
  cases h : (Window.trailing now span).isEmpty with
  | true =>
    rw [Window.isRecent_of_isEmpty h] at recent
    cases recent
  | false =>
    rw [Window.effectiveStart_of_not_isEmpty h]
    have recency := isRecent_iff_of_ordinary inRange ordinary edges h
    exact (recency participant among event.instant edge).1 recent

end Ordinary

end Series

end SwarmChart
