import SwarmChart.Proofs.Series.Bounds
import SwarmChart.Proofs.Series.Collapse
import SwarmChart.Proofs.Series.Stability

/-!
# Wider windows

A window that reaches back further holds every recent instant of a shorter one
(`Window.isRecent_of_le`). A positive span gives a window with a past unless the present is the very
first instant of the calendar (`Window.isEmpty_eq_false_iff_of_pos`), so a longer span never loses
it. Spans of no length or less have no recent instant at all, even where their window is not empty.

The sort keeps the events of the shorter window in the places that they have among those of the
wider one, so widening only adds events (`Series.events_widen`).
-/

set_option autoImplicit false

namespace SwarmChart

namespace Window

variable {now instant : Instant} {span wider : Span}

/-- No window starts before the calendar does. -/
theorem earliest_le_start (now : Instant) (span : Span) :
    Instant.earliest ≤ (trailing now span).start := by
  have start := start_trailing now span
  have first : Instant.earliest.nanos = 0 := rfl
  have last : Instant.earliest ≤ Instant.latest := by decide
  split at start
  · rw [start, Instant.le_iff]
    omega
  · split at start
    · rw [start]
      exact Std.le_refl _
    · rw [start]
      exact last

/-- A positive span leads back, also from inside a leap second. -/
theorem advance_neg_lt (held : now.Held) (positive : 0 < span.nanos) :
    now.advance (-span) < now := by
  have bound := held.bound
  have back : (-span).nanos = -span.nanos := rfl
  by_cases ordinary : now.Ordinary
  · rw [Instant.advance_of_ordinary ordinary, back]
    simp only [Instant.lt_iff, Instant.ofLine, Instant.onLine, Instant.Ordinary,
      nanosPerSecond] at *
    omega
  · have inside : ¬ 2 * (nanosPerSecond : Int) ≤ now.nanos + -span.nanos := by omega
    rw [Instant.advance_of_leap ordinary bound, back, if_neg inside]
    rw [Instant.Ordinary] at ordinary
    split
    · simp only [Instant.lt_iff, Instant.ofLine, Instant.onLine, nanosPerSecond] at *
      omega
    · refine Or.inr ⟨rfl, ?_⟩
      dsimp only
      omega

/-- A window with a positive span reaches back, unless the calendar begins with it. -/
theorem start_lt_of_pos (held : now.Held) (positive : 0 < span.nanos)
    (late : Instant.earliest < now) : (trailing now span).start < now := by
  rw [start_trailing]
  split
  · exact advance_neg_lt held positive
  · exact late

/-- A window of positive length is empty only at the first instant of the calendar. -/
theorem isEmpty_eq_false_iff_of_pos (held : now.Held) (positive : 0 < span.nanos) :
    (trailing now span).isEmpty = false ↔ Instant.earliest < now := by
  rw [isEmpty_eq_false_iff, finish_trailing]
  constructor
  · exact Std.lt_of_le_of_lt (earliest_le_start now span)
  · exact start_lt_of_pos held positive

/-- What is recent is recent in every wider window. -/
theorem isRecent_of_le (held : now.Held) (instantHeld : instant.Held) (le : span ≤ wider)
    (recent : (trailing now span).isRecent instant = true) :
    (trailing now wider).isRecent instant = true := by
  have nonempty : (trailing now span).isEmpty = false := by
    rw [isRecent, Bool.and_eq_true, Bool.not_eq_true'] at recent
    exact recent.1
  have positive : 0 < span.nanos := by
    by_contra notPositive
    have passes := passesEnd_of_not_isEmpty held (Int.not_lt.1 notPositive) nonempty
    rw [isRecent_of_passesEnd held passes instantHeld] at recent
    cases recent
  have wide : (trailing now wider).isEmpty = false := by
    have late := (isEmpty_eq_false_iff_of_pos held positive).1 nonempty
    exact (isEmpty_eq_false_iff_of_pos held (Int.lt_of_lt_of_le positive le)).2 late
  rw [isRecent_iff nonempty] at recent
  rw [isRecent_iff wide]
  exact Int.le_trans recent le

end Window

namespace Series

variable {participants : List Participant} {metric : Metric}

theorem exists_edge_of_mem_history {event : Event}
    (member : event ∈ participants.flatMap (history metric)) :
    ∃ participant ∈ participants, event.instant ∈ metric.edges participant := by
  obtain ⟨participant, among, member⟩ := List.mem_flatMap.1 member
  refine ⟨participant, among, Metric.mem_edges.2 ?_⟩
  rw [history_eq] at member
  rcases List.mem_append.1 member with opening | closing
  · obtain ⟨instant, opens, rfl⟩ := List.mem_map.1 opening
    exact Or.inl (Option.mem_toList.1 opens)
  · obtain ⟨instant, closes, rfl⟩ := List.mem_map.1 closing
    exact Or.inr (Option.mem_toList.1 closes)

/-- What a wider window holds it does not take from the narrower one. -/
theorem filter_inWindow_of_le {events : List Event} {window wider : Window}
    (holds : ∀ event ∈ events, window.isRecent event.instant = true →
      wider.isRecent event.instant = true) :
    (events.filter (inWindow wider)).filter (inWindow window) =
      events.filter (inWindow window) := by
  rw [List.filter_filter]
  apply List.filter_congr
  intro event member
  cases recent : inWindow window event with
  | false => rfl
  | true => exact holds event member recent

/-- Widening a window only adds events: what was recent still is, and the moving events of the
shorter window are those of the wider one that are recent in the shorter one, in the same order. -/
theorem events_widen {now : Instant} {span wider : Span} (held : now.Held) (le : span ≤ wider)
    (edgesHeld : ∀ participant ∈ participants, ∀ edge ∈ metric.edges participant, edge.Held) :
    (∀ instant : Instant, instant.Held → (Window.trailing now span).isRecent instant = true →
        (Window.trailing now wider).isRecent instant = true) ∧
      ((events participants metric (.trailing now wider)).filter moves).filter
          (inWindow (.trailing now span)) =
        (events participants metric (.trailing now span)).filter moves ∧
      ((events participants metric (.trailing now span)).filter moves).Sublist
        ((events participants metric (.trailing now wider)).filter moves) := by
  have stays : ∀ instant : Instant, instant.Held →
      (Window.trailing now span).isRecent instant = true →
        (Window.trailing now wider).isRecent instant = true :=
    fun _ instantHeld recent => Window.isRecent_of_le held instantHeld le recent
  have selected : ((events participants metric (.trailing now wider)).filter moves).filter
        (inWindow (.trailing now span)) =
      (events participants metric (.trailing now span)).filter moves := by
    -- Sorting and choosing commute, so only what is emitted is compared.
    rw [filter_moves_events, filter_moves_events, filter_chronological, allEmitted_eq_filter,
      allEmitted_eq_filter, filter_inWindow_of_le]
    intro event member recent
    obtain ⟨participant, among, edge⟩ := exists_edge_of_mem_history member
    exact stays event.instant (edgesHeld participant among event.instant edge) recent
  refine ⟨stays, selected, ?_⟩
  rw [← selected]
  exact List.filter_sublist

/-- Ten minutes against an hour, both back from inside the leap second before the year 2017. One
participant connects twenty minutes before it and another one as it begins. -/
theorem events_widen_from_leap_second :
    ((events [⟨⟨1483227600, 0⟩, none, none⟩, ⟨⟨1483228799, 1000000000⟩, none, none⟩] .activity
        (.trailing ⟨1483228799, 1500000000⟩ ⟨600000000000⟩)).filter moves).Sublist
      ((events [⟨⟨1483227600, 0⟩, none, none⟩, ⟨⟨1483228799, 1000000000⟩, none, none⟩] .activity
        (.trailing ⟨1483228799, 1500000000⟩ ⟨3600000000000⟩)).filter moves) :=
  have widened := events_widen (by decide : Instant.Held ⟨1483228799, 1500000000⟩)
    (by decide : (⟨600000000000⟩ : Span) ≤ ⟨3600000000000⟩)
    (by decide : ∀ participant ∈ ([⟨⟨1483227600, 0⟩, none, none⟩,
        ⟨⟨1483228799, 1000000000⟩, none, none⟩] : List Participant),
      ∀ edge ∈ Metric.edges .activity participant, edge.Held)
  widened.2.2

end Series

end SwarmChart
