import SwarmChart.Proofs.Series.Edges
import SwarmChart.Proofs.Window.Recency

/-!
# Windows that do not reach back

A window that is empty collapses onto its finish (`Window.Collapsed`): nothing is recent in it,
counting begins at the finish, and every series is two points there with the count of that instant.

A span of no length or less gives such a window with one exception
(`Series.collapsed_iff_not_passesEnd`). The start moves onwards, and where it would leave the
calendar it is held at the last ordinary instant. The leap second behind that instant still belongs
to the calendar, so a present inside it has a start before it.
-/

set_option autoImplicit false

namespace SwarmChart

namespace Window

/-- Nothing of the window is left but its finish. -/
structure Collapsed (window : Window) : Prop where
  empty : window.isEmpty = true
  start : window.effectiveStart = window.finish
  nothingRecent : ∀ instant, window.isRecent instant = false
  series : ∀ participants metric, Series.ofSwarm participants metric window =
    [⟨window.finish, Series.baseline participants metric window.finish⟩,
      ⟨window.finish, Series.baseline participants metric window.finish⟩]

/-- The present lies inside the leap second at the end of the calendar, and the span leads on out
of that second. -/
def PassesEnd (now : Instant) (span : Span) : Prop :=
  ¬ now.Ordinary ∧ now.seconds = Instant.latest.seconds ∧
    2 * nanosPerSecond ≤ now.nanos - span.nanos

instance (now : Instant) (span : Span) : Decidable (PassesEnd now span) :=
  inferInstanceAs (Decidable (¬ now.Ordinary ∧ now.seconds = Instant.latest.seconds ∧
    2 * nanosPerSecond ≤ now.nanos - span.nanos))

/-! ## Where the start lies -/

section Trailing

variable {now : Instant} {span : Span} (held : now.Held) (nonpositive : span ≤ Span.zero)

include held nonpositive

/-- The start lies before the present only where the end of the calendar holds it back. -/
theorem passesEnd_of_not_isEmpty (nonempty : (trailing now span).isEmpty = false) :
    PassesEnd now span := by
  obtain ⟨afterEarliest, -⟩ := (Instant.inRange_iff now).1 held.inRange
  have before := (isEmpty_eq_false_iff _).1 nonempty
  have noLength : span.nanos ≤ 0 := nonpositive
  cases startsBy_of_not_isEmpty held nonempty with
  | line ordinary apart reach =>
    have finishOrdinary : now.Ordinary := by
      rw [finish_trailing, span_trailing] at reach
      exact reach.resolve_right (by simp only [nanosPerSecond]; omega)
    rw [finish_trailing] at before apart
    rw [span_trailing] at apart
    have notBefore : now ≤ (trailing now span).start := by
      rw [Instant.le_iff_onLine_le finishOrdinary ordinary]
      omega
    exact absurd before (Std.not_lt.2 notBefore)
  | beginning start beyond reach =>
    rw [finish_trailing, span_trailing] at beyond
    simp only [Instant.onLine, Instant.earliest, nanosPerSecond] at beyond afterEarliest
    omega
  | sameSecond leap second apart short =>
    rw [span_trailing] at short
    omega
  | ending leap start second beyond => exact ⟨leap, second, beyond⟩

omit nonpositive in
/-- The start is then held at the end of the calendar, which is before the present. -/
theorem start_of_passesEnd (passes : PassesEnd now span) :
    (trailing now span).start = Instant.latest ∧ Instant.latest < now := by
  obtain ⟨leap, second, beyond⟩ := passes
  have moved : now.advance (-span) =
      Instant.ofLine (now.onLine - nanosPerSecond + -span.nanos) := by
    rw [Instant.advance_of_leap leap held.bound]
    exact if_pos beyond
  have start := start_trailing now span
  have outside : Instant.latest.seconds < (now.advance (-span)).seconds := by
    rw [moved, ← second]
    simp only [Instant.ofLine, Instant.onLine, nanosPerSecond] at *
    omega
  have bound := held.bound
  rw [if_neg (by omega), if_neg (by omega)] at start
  refine ⟨start, (Instant.lt_iff _ _).2 (Or.inr ⟨second.symm, ?_⟩)⟩
  exact Nat.lt_of_lt_of_le (by decide) (Nat.not_lt.1 leap)

omit nonpositive in
theorem not_isEmpty_of_passesEnd (passes : PassesEnd now span) :
    (trailing now span).isEmpty = false := by
  obtain ⟨start, before⟩ := start_of_passesEnd held passes
  rw [isEmpty_eq_false_iff, start]
  exact before

omit nonpositive in
/-- No instant of the calendar lies as far onwards as the span leads. -/
theorem isRecent_of_passesEnd (passes : PassesEnd now span) {instant : Instant}
    (instantHeld : instant.Held) : (trailing now span).isRecent instant = false := by
  have nonempty := not_isEmpty_of_passesEnd held passes
  obtain ⟨-, second, beyond⟩ := passes
  obtain ⟨-, beforeLatest⟩ := (Instant.inRange_iff instant).1 instantHeld.inRange
  have bound := instantHeld.bound
  -- The present has the last second of a day, so its leap second is never taken off.
  have lastSecond : Instant.latest.seconds % 86400 = 86399 := by decide
  have secondOfNow := now.secondOfDay_eq
  have secondOfInstant := instant.secondOfDay_eq
  have leap : 0 ≤ Instant.leapBetween now instant := by
    rcases Instant.leapBetween_cases now instant with ⟨counts, -, -⟩ | ⟨-, later, -⟩ | ⟨none, -, -⟩
    · omega
    · omega
    · omega
  rw [Bool.eq_false_iff, ne_eq, isRecent_iff nonempty, finish_trailing, span_trailing,
    Instant.since_nanos]
  simp only [Instant.onLine, nanosPerSecond] at *
  omega

end Trailing

end Window

namespace Series

variable {participants : List Participant} {metric : Metric} {window : Window}

/-! ## Series without events -/

/-- Participants without a recent edge emit nothing. -/
theorem allEmitted_of_old (old : ∀ participant ∈ participants,
    ∀ edge ∈ metric.edges participant, window.isRecent edge = false) :
    allEmitted participants metric window = [] := by
  apply List.eq_nil_iff_forall_not_mem.2
  intro event member
  obtain ⟨recent, participant, among, edge⟩ := exists_mem_allEmitted_iff.1 ⟨event, member, rfl⟩
  rw [old participant among event.instant edge] at recent
  cases recent

/-- A series without events holds the count that it begins with. -/
theorem ofSwarm_of_allEmitted_eq_nil (none : allEmitted participants metric window = []) :
    ofSwarm participants metric window =
      [⟨window.effectiveStart, baseline participants metric window.effectiveStart⟩,
        ⟨window.finish, baseline participants metric window.effectiveStart⟩] := by
  have fromStart : ∀ event ∈ allEmitted participants metric window,
      window.effectiveStart ≤ event.instant := by
    rw [none]
    exact fun _ member => absurd member List.not_mem_nil
  have nothing : chronological [] = [] := List.mergeSort_nil
  rw [ofSwarm_of_le fromStart, none, nothing, total_nil, Int.add_zero]
  rfl

/-- An empty window has nothing left but its finish. -/
theorem collapsed_of_isEmpty (empty : window.isEmpty = true) : window.Collapsed where
  empty := empty
  start := Window.effectiveStart_of_isEmpty empty
  nothingRecent _ := Window.isRecent_of_isEmpty empty
  series participants metric := by
    rw [ofSwarm_of_allEmitted_eq_nil (allEmitted_of_isEmpty empty participants metric),
      Window.effectiveStart_of_isEmpty empty]

/-! ## Spans of no length or less -/

/-- A span of no length or less collapses the window, unless it leads out of the leap second at the
end of the calendar. There the window begins at the last ordinary instant, just before the present,
and each series holds the count of that instant. -/
theorem collapsed_iff_not_passesEnd {text : String} {now : Instant} {span : Span}
    (read : Timestamp.read text = some now) (nonpositive : span ≤ Span.zero) :
    ((Window.trailing now span).Collapsed ↔ ¬ Window.PassesEnd now span) ∧
      (Window.PassesEnd now span →
        (Window.trailing now span).start = Instant.latest ∧ Instant.latest < now ∧
          (∀ instant, instant.Held → (Window.trailing now span).isRecent instant = false) ∧
          ∀ participants metric, (∀ participant ∈ participants,
              ∀ edge ∈ metric.edges participant, edge.Held) →
            ofSwarm participants metric (.trailing now span) =
              [⟨Instant.latest, baseline participants metric Instant.latest⟩,
                ⟨now, baseline participants metric Instant.latest⟩]) := by
  have held := Timestamp.held_of_read read
  refine ⟨⟨?_, ?_⟩, ?_⟩
  · intro collapsed passes
    have nonempty := Window.not_isEmpty_of_passesEnd held passes
    rw [collapsed.empty] at nonempty
    cases nonempty
  · intro stays
    apply collapsed_of_isEmpty
    by_contra nonempty
    exact stays (Window.passesEnd_of_not_isEmpty held nonpositive (Bool.eq_false_iff.2 nonempty))
  -- Nothing is recent in such a window, so nothing is emitted and its two boundaries are left.
  · intro passes
    obtain ⟨start, before⟩ := Window.start_of_passesEnd held passes
    refine ⟨start, before, fun _ => Window.isRecent_of_passesEnd held passes, ?_⟩
    intro participants metric edgesHeld
    have none : allEmitted participants metric (.trailing now span) = [] :=
      allEmitted_of_old fun participant among edge isEdge =>
        Window.isRecent_of_passesEnd held passes (edgesHeld participant among edge isEdge)
    rw [ofSwarm_of_allEmitted_eq_nil none, Window.effectiveStart_of_not_isEmpty
      (Window.not_isEmpty_of_passesEnd held passes), start, Window.finish_trailing]

/-- The longest span that leads onwards from noon. -/
theorem collapsed_at_noon :
    Timestamp.read "2022-06-10T12:00:00" = some ⟨1654862400, 0⟩ ∧ Span.shortest ≤ Span.zero ∧
      (Window.trailing ⟨1654862400, 0⟩ Span.shortest).Collapsed :=
  have applied := collapsed_iff_not_passesEnd
    (by decide : Timestamp.read "2022-06-10T12:00:00" = some ⟨1654862400, 0⟩)
    (by decide : Span.shortest ≤ Span.zero)
  ⟨by decide, by decide, applied.1.2 (by decide)⟩

/-- Ten seconds onwards from inside the last leap second: a participant that connects as that second
begins is there at the present, yet the window is not empty and the series holds the zero of its
start. -/
theorem not_collapsed_at_calendar_end :
    Timestamp.read "+262142-12-31T23:59:60.5" = some ⟨8210266876799, 1500000000⟩ ∧
      (⟨-10000000000⟩ : Span) ≤ Span.zero ∧
      (Window.trailing ⟨8210266876799, 1500000000⟩ ⟨-10000000000⟩).isEmpty = false ∧
      ofSwarm [⟨⟨8210266876799, 1000000000⟩, none, none⟩] .activity
          (.trailing ⟨8210266876799, 1500000000⟩ ⟨-10000000000⟩) =
        [⟨⟨8210266876799, 999999999⟩, 0⟩, ⟨⟨8210266876799, 1500000000⟩, 0⟩] ∧
      baseline [⟨⟨8210266876799, 1000000000⟩, none, none⟩] .activity
        ⟨8210266876799, 1500000000⟩ = 1 ∧
      ¬ (Window.trailing ⟨8210266876799, 1500000000⟩ ⟨-10000000000⟩).Collapsed := by
  have nonempty :
      (Window.trailing ⟨8210266876799, 1500000000⟩ ⟨-10000000000⟩).isEmpty = false := by decide
  refine ⟨by decide, by decide, nonempty, ?_, by decide, ?_⟩
  · rw [ofSwarm_of_ascending (by decide)]
    decide
  · intro collapsed
    rw [collapsed.empty] at nonempty
    cases nonempty

end Series

end SwarmChart
