import Mathlib.Data.List.Basic
import SwarmChart.Proofs.Series.Edges

/-!
# Events of one instant

The sort behind the events of a swarm is stable: it leaves the events of each instant in the order
in which they stood (`Series.eventsAt_chronological`). With the ascending order this settles the
whole list (`Series.eq_of_eventsAt`), so selecting events before the sort or after it comes to the
same (`Series.filter_chronological`).

What a swarm emits in a window are the recent ones among all events of its participants
(`Series.allEmitted_eq_filter`). `Series.events_stablySorted` puts both together.
-/

set_option autoImplicit false

namespace SwarmChart.Series

/-- The events of one instant, in the order in which they stand. -/
def eventsAt (t : Instant) (events : List Event) : List Event :=
  events.filter fun event => event.instant = t

/-- The second list holds the events of the first one in ascending order, those of one instant in
the order in which they stood. -/
structure StablySorted (given sorted : List Event) : Prop where
  ascending : Ascending sorted
  perm : sorted.Perm given
  stable : ∀ t, eventsAt t sorted = eventsAt t given

variable {first : Event} {given left right : List Event} {t : Instant}

/-! ## The sort -/

theorem eventsAt_cons_self (first : Event) (given : List Event) :
    eventsAt first.instant (first :: given) = first :: eventsAt first.instant given :=
  List.filter_cons_of_pos (decide_eq_true rfl)

theorem eventsAt_cons_of_ne (other : first.instant ≠ t) (given : List Event) :
    eventsAt t (first :: given) = eventsAt t given :=
  List.filter_cons_of_neg (by simpa using other)

theorem eventsAt_append (t : Instant) (left right : List Event) :
    eventsAt t (left ++ right) = eventsAt t left ++ eventsAt t right :=
  List.filter_append ..

theorem eventsAt_of_before (before : ∀ event ∈ given, event.instant < t) :
    eventsAt t given = [] := by
  apply List.filter_eq_nil_iff.2
  intro event member same
  have same : event.instant = t := of_decide_eq_true same
  exact Std.lt_irrefl (same ▸ before event member)

/-- Sorting leaves the events of each instant as they were. -/
theorem eventsAt_chronological (t : Instant) (given : List Event) :
    eventsAt t (chronological given) = eventsAt t given := by
  induction given with
  | nil =>
    have none : chronological [] = [] := List.mergeSort_nil
    rw [none]
  | cons first given ih =>
    obtain ⟨before, later, whole, rest, strict⟩ := chronological_cons first given
    rw [rest, eventsAt_append] at ih
    rw [whole, eventsAt_append]
    by_cases same : first.instant = t
    -- Nothing of this instant stands among the strictly earlier events in front of the first one.
    · subst same
      rw [eventsAt_of_before strict, List.nil_append] at ih ⊢
      rw [eventsAt_cons_self, eventsAt_cons_self, ih]
    · rw [eventsAt_cons_of_ne same, eventsAt_cons_of_ne same, ih]

/-- Sorting keeps the events of each instant in the order in which they stood. -/
theorem stablySorted_chronological (given : List Event) :
    StablySorted given (chronological given) where
  ascending := ascending_chronological given
  perm := chronological_perm given
  stable t := eventsAt_chronological t given

theorem mem_of_eventsAt (same : ∀ t, eventsAt t left = eventsAt t right) {event : Event}
    (member : event ∈ left) : event ∈ right := by
  have among : event ∈ eventsAt event.instant left :=
    List.mem_filter.2 ⟨member, decide_eq_true rfl⟩
  rw [same] at among
  exact (List.mem_filter.1 among).1

theorem instant_le_of_mem (ascending : Ascending (first :: given)) {event : Event}
    (member : event ∈ first :: given) : first.instant ≤ event.instant := by
  rcases List.mem_cons.1 member with rfl | behind
  · exact Std.le_refl _
  · exact (List.pairwise_cons.1 ascending).1 event behind

/-- Events in ascending order are known from the events of each instant. -/
theorem eq_of_eventsAt (leftAscending : Ascending left) (rightAscending : Ascending right)
    (same : ∀ t, eventsAt t left = eventsAt t right) : left = right := by
  induction left generalizing right with
  | nil =>
    cases right with
    | nil => rfl
    | cons second right =>
      have among : second ∈ [] :=
        mem_of_eventsAt (fun t => (same t).symm) List.mem_cons_self
      exact absurd among List.not_mem_nil
  | cons first left ih =>
    cases right with
    | nil =>
      have among : first ∈ [] := mem_of_eventsAt same List.mem_cons_self
      exact absurd among List.not_mem_nil
    | cons second right =>
      have firstAmong := mem_of_eventsAt same (List.mem_cons_self : first ∈ first :: left)
      have secondAmong := mem_of_eventsAt (fun t => (same t).symm)
        (List.mem_cons_self : second ∈ second :: right)
      -- Each of the two comes first among the same events, so neither is earlier.
      have together : first.instant = second.instant :=
        Std.le_antisymm (instant_le_of_mem leftAscending secondAmong)
          (instant_le_of_mem rightAscending firstAmong)
      have heads := same first.instant
      rw [eventsAt_cons_self, together, eventsAt_cons_self] at heads
      obtain ⟨equal, -⟩ := List.cons.inj heads
      subst equal
      refine congrArg (first :: ·) (ih (List.pairwise_cons.1 leftAscending).2
        (List.pairwise_cons.1 rightAscending).2 ?_)
      intro t
      have tails := same t
      by_cases here : first.instant = t
      · subst here
        rw [eventsAt_cons_self, eventsAt_cons_self] at tails
        exact (List.cons.inj tails).2
      · rw [eventsAt_cons_of_ne here, eventsAt_cons_of_ne here] at tails
        exact tails

/-- There is only one list that is sorted in this way. -/
theorem StablySorted.eq_chronological {sorted : List Event} (h : StablySorted given sorted) :
    sorted = chronological given := by
  apply eq_of_eventsAt h.ascending (ascending_chronological given)
  intro t
  rw [h.stable t, eventsAt_chronological]

/-- Events can be selected before the sort or after it. -/
theorem filter_chronological (p : Event → Bool) (given : List Event) :
    (chronological given).filter p = chronological (given.filter p) := by
  apply eq_of_eventsAt ((ascending_chronological given).filter p) (ascending_chronological _)
  intro t
  calc eventsAt t ((chronological given).filter p)
      = (eventsAt t (chronological given)).filter p := List.filter_comm ..
    _ = (eventsAt t given).filter p := by rw [eventsAt_chronological]
    _ = eventsAt t (given.filter p) := List.filter_comm ..
    _ = eventsAt t (chronological (given.filter p)) := (eventsAt_chronological t _).symm

/-! ## What a participant can emit -/

/-- The event by which a participant leaves, if it does. -/
def departure (participant : Participant) : List Event :=
  participant.disconnectedAt.toList.map fun instant => ⟨instant, .decrease⟩

/-- All events of a participant for the metric, whenever they are: its opening and then its
departure. A participant that never completed has none for the count of completions. -/
def history (metric : Metric) (participant : Participant) : List Event :=
  match metric with
  | .activity => ⟨participant.connectedAt, .increase⟩ :: departure participant
  | .completion =>
    match participant.completedAt with
    | none => []
    | some completedAt => ⟨completedAt, .increase⟩ :: departure participant

/-- The event happens no longer ago than the window reaches back. -/
def inWindow (window : Window) (event : Event) : Bool := window.isRecent event.instant

variable {participants : List Participant} {metric : Metric} {window : Window}

theorem eventIfRecent_eq_filter (window : Window) (tag : Tag) (edge? : Option Instant) :
    eventIfRecent window tag edge? =
      (edge?.toList.map fun instant => ⟨instant, tag⟩).filter (inWindow window) := by
  cases edge? with
  | none => rfl
  | some edge =>
    rw [eventIfRecent_some, Option.toList_some, List.map_singleton, List.filter_cons,
      List.filter_nil]
    rfl

theorem history_eq (metric : Metric) (participant : Participant) :
    history metric participant =
      ((metric.opening? participant).toList.map fun instant => ⟨instant, .increase⟩) ++
        ((metric.closing? participant).toList.map fun instant => ⟨instant, .decrease⟩) := by
  cases metric with
  | activity => rfl
  | completion =>
    simp only [history, Metric.closing?, Metric.opening?]
    cases participant.completedAt <;> rfl

/-- A participant emits the part of its history that is in the window. -/
theorem emitted_eq_filter (metric : Metric) (window : Window) (participant : Participant) :
    emitted metric window participant =
      (history metric participant).filter (inWindow window) := by
  rw [emitted, eventIfRecent_eq_filter, eventIfRecent_eq_filter, history_eq, List.filter_append]

/-- A swarm emits the recent ones among all events of its participants. -/
theorem allEmitted_eq_filter (participants : List Participant) (metric : Metric)
    (window : Window) :
    allEmitted participants metric window =
      (participants.flatMap (history metric)).filter (inWindow window) := by
  rw [allEmitted, List.filter_flatMap]
  congr 1
  funext participant
  exact emitted_eq_filter metric window participant

/-- An opening and a closing at one instant stand side by side. -/
theorem emitted_of_simultaneous {participant : Participant}
    (opens : metric.opening? participant = some t) (closes : metric.closing? participant = some t)
    (recent : window.isRecent t = true) :
    eventsAt t (emitted metric window participant) = [⟨t, .increase⟩, ⟨t, .decrease⟩] := by
  rw [emitted, opens, closes, eventIfRecent_some, eventIfRecent_some, if_pos recent,
    if_pos recent]
  exact (eventsAt_cons_self ⟨t, .increase⟩ _).trans
    (congrArg _ (eventsAt_cons_self ⟨t, .decrease⟩ []))

/-! ## The events of a swarm -/

/-- The events of a swarm end with the boundary at the finish. The others are the boundary at the
start and the recent events of one participant after the other, stably sorted, and no other list is.
So a participant that opens and closes at one instant opens first, and away from leap seconds the
boundary at the start is the very first event. -/
theorem events_stablySorted (participants : List Participant) (metric : Metric)
    (window : Window) :
    ∃ sorted, events participants metric window = sorted ++ [⟨window.finish, .boundary⟩] ∧
      (∀ other, StablySorted (⟨window.effectiveStart, .boundary⟩ ::
          (participants.flatMap (history metric)).filter (inWindow window)) other ↔
        other = sorted) ∧
      (∀ earlier participant later t, participants = earlier ++ participant :: later →
        metric.opening? participant = some t → metric.closing? participant = some t →
        window.isRecent t = true →
        eventsAt t sorted = eventsAt t (emissions earlier metric window) ++
          ⟨t, .increase⟩ :: ⟨t, .decrease⟩ :: eventsAt t (allEmitted later metric window)) ∧
      ∀ now span, window = .trailing now span → now.inRange = true → now.Ordinary →
        OrdinaryEdges metric participants →
        sorted.head? = some ⟨window.effectiveStart, .boundary⟩ := by
  refine ⟨chronological (emissions participants metric window), rfl, ?_, ?_, ?_⟩
  · intro other
    rw [← allEmitted_eq_filter]
    constructor
    · exact StablySorted.eq_chronological
    · rintro rfl
      exact stablySorted_chronological _
  -- Sorting keeps the order of emission among the events of one instant.
  · rintro earlier participant later t rfl opens closes recent
    have emission : emissions (earlier ++ participant :: later) metric window =
        emissions earlier metric window ++
          (emitted metric window participant ++ allEmitted later metric window) := by
      rw [emissions, List.flatMap_append, List.flatMap_cons]
      rfl
    rw [eventsAt_chronological, emission, eventsAt_append, eventsAt_append,
      emitted_of_simultaneous opens closes recent]
    rfl
  · rintro now span rfl inRange ordinary edges
    have fromStart := effectiveStart_le_of_mem_allEmitted inRange ordinary edges span
    rw [emissions, ← allEmitted, chronological_cons_of_le fromStart, List.head?_cons]

/-- A participant that connects and leaves five minutes before noon, in the hour before noon. -/
theorem events_stablySorted_within_hour :
    ∃ sorted,
      events [⟨⟨1654862100, 0⟩, some ⟨1654862100, 0⟩, none⟩] .activity
          (.trailing ⟨1654862400, 0⟩ ⟨3600000000000⟩) =
        sorted ++ [⟨⟨1654862400, 0⟩, .boundary⟩] ∧
      eventsAt ⟨1654862100, 0⟩ sorted =
        [⟨⟨1654862100, 0⟩, .increase⟩, ⟨⟨1654862100, 0⟩, .decrease⟩] ∧
      sorted.head? = some ⟨⟨1654858800, 0⟩, .boundary⟩ := by
  obtain ⟨sorted, whole, -, simultaneous, first⟩ :=
    events_stablySorted [⟨⟨1654862100, 0⟩, some ⟨1654862100, 0⟩, none⟩] .activity
      (.trailing ⟨1654862400, 0⟩ ⟨3600000000000⟩)
  refine ⟨sorted, whole, ?_, ?_⟩
  · exact (simultaneous [] _ [] ⟨1654862100, 0⟩ rfl rfl rfl (by decide)).trans (by decide)
  · exact first ⟨1654862400, 0⟩ ⟨3600000000000⟩ rfl (by decide) (by decide) (by decide)

end SwarmChart.Series
