import SwarmChart.Proofs.Timestamp.Held
import SwarmChart.Proofs.Window.Start

/-!
# Recency and the start of a window

Whether an instant is recent is decided by the time gone by since it, while counting compares
instants with the start of the window. The two agree except on the instants that a leap second
misjudges (`Window.Misjudged`): `Window.isRecent_iff_start_le_iff` for an instant that the calendar
holds, `Window.isRecent_iff_start_le_iff_of_read` for one that is read from a timestamp.

Away from leap seconds nothing is misjudged (`Window.not_misjudged_of_ordinary`).
-/

set_option autoImplicit false

namespace SwarmChart.Window

variable {window : Window} {instant : Instant}

/-- The time gone by puts the instant on the other side of the start of the window than the order
of instants does. A leap second that counts is added to the time gone by or taken off it
(`Instant.leapBetween`), but the start was found without it. -/
inductive Misjudged (window : Window) (instant : Instant) : Prop
  /-- A leap second that counts, in the second of the start. -/
  | counted (counts : window.finish.leapBetween instant = 1)
      (second : instant.seconds = window.start.seconds)
      (part : instant.nanos < window.start.nanos + nanosPerSecond)
  /-- A leap second that does not count, in the second before the start. -/
  | uncounted (leap : ¬ instant.Ordinary) (counts : window.finish.leapBetween instant = 0)
      (second : instant.seconds + 1 = window.start.seconds)
      (part : window.start.nanos + nanosPerSecond ≤ instant.nanos)
  /-- The leap second of the finish is taken off, for an instant less than a second too old. -/
  | takenOff (counts : window.finish.leapBetween instant = -1) (before : instant < window.start)
      (near : window.start.onLine ≤ instant.onLine + nanosPerSecond)
  /-- The leap second of the finish ends the day and ran on past an instant in the first second of
  the next day, by more than the whole span. -/
  | nextDay (leap : ¬ window.finish.Ordinary) (midnight : window.finish.seconds % 86400 = 86399)
      (second : instant.seconds = window.finish.seconds + 1)
      (part : nanosPerSecond + instant.nanos % nanosPerSecond + window.span.nanos <
        window.finish.nanos)
  /-- A negative span, from inside the leap second at the end of the calendar range. -/
  | ending (leap : ¬ window.finish.Ordinary) (negative : window.span.nanos < 0)
      (after : window.start ≤ instant)

theorem misjudged_iff : window.Misjudged instant ↔
    (window.finish.leapBetween instant = 1 ∧ instant.seconds = window.start.seconds ∧
        instant.nanos < window.start.nanos + nanosPerSecond) ∨
      (¬ instant.Ordinary ∧ window.finish.leapBetween instant = 0 ∧
        instant.seconds + 1 = window.start.seconds ∧
        window.start.nanos + nanosPerSecond ≤ instant.nanos) ∨
      (window.finish.leapBetween instant = -1 ∧
        instant < window.start ∧ window.start.onLine ≤ instant.onLine + nanosPerSecond) ∨
      (¬ window.finish.Ordinary ∧ window.finish.seconds % 86400 = 86399 ∧
        instant.seconds = window.finish.seconds + 1 ∧
        nanosPerSecond + instant.nanos % nanosPerSecond + window.span.nanos <
          window.finish.nanos) ∨
      (¬ window.finish.Ordinary ∧ window.span.nanos < 0 ∧ window.start ≤ instant) := by
  constructor
  · intro misjudged
    cases misjudged with
    | counted counts second part => exact Or.inl ⟨counts, second, part⟩
    | uncounted leap counts second part => exact Or.inr (Or.inl ⟨leap, counts, second, part⟩)
    | takenOff counts before near => exact Or.inr (Or.inr (Or.inl ⟨counts, before, near⟩))
    | nextDay leap midnight second part =>
      exact Or.inr (Or.inr (Or.inr (Or.inl ⟨leap, midnight, second, part⟩)))
    | ending leap negative after => exact Or.inr (Or.inr (Or.inr (Or.inr ⟨leap, negative, after⟩)))
  · rintro (⟨counts, second, part⟩ | ⟨leap, counts, second, part⟩ | ⟨counts, before, near⟩ |
      ⟨leap, midnight, second, part⟩ | ⟨leap, negative, after⟩)
    · exact .counted counts second part
    · exact .uncounted leap counts second part
    · exact .takenOff counts before near
    · exact .nextDay leap midnight second part
    · exact .ending leap negative after

instance : Decidable (window.Misjudged instant) := decidable_of_iff _ misjudged_iff.symm

/-! ## The time gone by, for each way in which a window starts -/

/-- No more time than the window's span has gone by exactly from its start on. -/
def Agrees (window : Window) (instant : Instant) : Prop :=
  (window.finish.since instant).nanos ≤ window.span.nanos ↔ window.start ≤ instant

section Agrees

variable (held : window.finish.Held) (instantHeld : instant.Held)

include held instantHeld

/-- On the line the two tests differ by the leap second that counts. -/
theorem agrees_iff_of_line (ordinary : window.start.Ordinary)
    (apart : window.start.onLine = window.finish.onLine - window.span.nanos)
    (reach : window.finish.Ordinary ∨ nanosPerSecond ≤ window.span.nanos) :
    window.Agrees instant ↔ ¬ window.Misjudged instant := by
  have bound := held.bound
  have instantBound := instantHeld.bound
  rw [Agrees, misjudged_iff, Instant.since_nanos]
  rcases Instant.leapBetween_cases window.finish instant with
    ⟨counts, -, leap⟩ | ⟨counts, -, leap⟩ | ⟨counts, -, -⟩
  all_goals
    simp only [counts, Int.reduceEq, Int.reduceNeg, true_and, false_and, and_false, false_or]
    simp only [Instant.onLine, Instant.Ordinary, nanosPerSecond, Instant.le_iff,
      Instant.lt_iff] at *
    omega

/-- Nothing is held before the beginning of the calendar, so nothing can be too old. -/
theorem agrees_iff_of_beginning (start : window.start = Instant.earliest)
    (beyond : window.finish.onLine - window.span.nanos < Instant.earliest.onLine)
    (reach : window.finish.Ordinary ∨ nanosPerSecond ≤ window.span.nanos) :
    window.Agrees instant ↔ ¬ window.Misjudged instant := by
  have bound := held.bound
  have instantBound := instantHeld.bound
  have after := ((Instant.inRange_iff instant).1 instantHeld.inRange).1
  have whole : Instant.earliest.nanos = 0 := rfl
  rw [Agrees, misjudged_iff, Instant.since_nanos, start]
  rcases Instant.leapBetween_cases window.finish instant with
    ⟨counts, -, leap⟩ | ⟨counts, -, leap⟩ | ⟨counts, -, -⟩
  all_goals
    simp only [counts, Int.reduceEq, Int.reduceNeg, true_and, false_and, and_false, false_or]
    simp only [Instant.onLine, Instant.Ordinary, nanosPerSecond, Instant.le_iff,
      Instant.lt_iff] at *
    omega

-- The finish is inside a leap second in both remaining ways, so here the times of day decide which
-- leap second counts.
/-- A start inside the leap second of the finish is misjudged from the next day at most. -/
theorem agrees_iff_of_sameSecond (leap : ¬ window.finish.Ordinary)
    (second : window.start.seconds = window.finish.seconds)
    (apart : window.start.nanos + window.span.nanos = window.finish.nanos)
    (short : 0 < window.span.nanos ∧ window.span.nanos < nanosPerSecond) :
    window.Agrees instant ↔ ¬ window.Misjudged instant := by
  have bound := held.bound
  have instantBound := instantHeld.bound
  have clock := window.finish.secondOfDay_eq
  have instantClock := instant.secondOfDay_eq
  rw [Agrees, misjudged_iff, Instant.since_nanos]
  rcases Instant.leapBetween_cases window.finish instant with
    ⟨counts, sooner, instantLeap⟩ | ⟨counts, later, -⟩ | ⟨counts, notSooner, notLater⟩
  all_goals
    simp only [counts, Int.reduceEq, Int.reduceNeg, true_and, false_and, and_false, false_or]
    simp only [Instant.onLine, Instant.Ordinary, nanosPerSecond, Instant.le_iff,
      Instant.lt_iff] at *
    omega

/-- A negative span from the end of the calendar has no recent instants behind its start. -/
theorem agrees_iff_of_ending (leap : ¬ window.finish.Ordinary)
    (start : window.start = Instant.latest)
    (second : window.finish.seconds = Instant.latest.seconds)
    (beyond : 2 * nanosPerSecond ≤ window.finish.nanos - window.span.nanos) :
    window.Agrees instant ↔ ¬ window.Misjudged instant := by
  have bound := held.bound
  have instantBound := instantHeld.bound
  have clock := window.finish.secondOfDay_eq
  have instantClock := instant.secondOfDay_eq
  have before := ((Instant.inRange_iff instant).1 instantHeld.inRange).2
  have midnight : Instant.latest.seconds % 86400 = 86399 := by decide
  rw [Agrees, misjudged_iff, Instant.since_nanos, start]
  rcases Instant.leapBetween_cases window.finish instant with
    ⟨counts, sooner, instantLeap⟩ | ⟨counts, later, -⟩ | ⟨counts, notSooner, notLater⟩
  all_goals
    simp only [counts, Int.reduceEq, Int.reduceNeg, true_and, false_and, and_false, false_or]
    simp only [Instant.onLine, Instant.Ordinary, nanosPerSecond, Instant.le_iff,
      Instant.lt_iff] at *
    omega

/-- However the window starts, the two tests agree on what is not misjudged. -/
theorem agrees_iff (startsBy : window.StartsBy) :
    window.Agrees instant ↔ ¬ window.Misjudged instant := by
  cases startsBy with
  | line ordinary apart reach => exact agrees_iff_of_line held instantHeld ordinary apart reach
  | beginning start beyond reach =>
    exact agrees_iff_of_beginning held instantHeld start beyond reach
  | sameSecond leap second apart short =>
    exact agrees_iff_of_sameSecond held instantHeld leap second apart short
  | ending leap start second beyond =>
    exact agrees_iff_of_ending held instantHeld leap start second beyond

end Agrees

/-! ## Recency -/

theorem isRecent_of_isEmpty (empty : window.isEmpty = true) : window.isRecent instant = false := by
  rw [isRecent, empty]
  rfl

theorem isRecent_iff (nonempty : window.isEmpty = false) :
    window.isRecent instant = true ↔
      (window.finish.since instant).nanos ≤ window.span.nanos := by
  simp only [isRecent, nonempty, Bool.not_false, Bool.true_and, decide_eq_true_eq, Span.le_iff]

section Trailing

variable {now : Instant} {span : Span}

/-- An instant is recent exactly from the start of the window on, unless it is misjudged. -/
theorem isRecent_iff_start_le_iff (held : now.Held)
    (nonempty : (trailing now span).isEmpty = false) (instantHeld : instant.Held) :
    ((trailing now span).isRecent instant = true ↔ (trailing now span).start ≤ instant) ↔
      ¬ (trailing now span).Misjudged instant := by
  rw [isRecent_iff nonempty]
  exact agrees_iff held instantHeld (startsBy_of_not_isEmpty held nonempty)

/-- A misjudgement takes a leap second on one side. -/
theorem not_misjudged_of_ordinary (ordinary : window.finish.Ordinary)
    (instantOrdinary : instant.Ordinary) : ¬ window.Misjudged instant := by
  have none := Instant.leapBetween_of_ordinary ordinary instantOrdinary
  intro misjudged
  cases misjudged with
  | counted counts =>
    rw [none] at counts
    cases counts
  | uncounted leap => exact leap instantOrdinary
  | takenOff counts =>
    rw [none] at counts
    cases counts
  | nextDay leap => exact leap ordinary
  | ending leap => exact leap ordinary

/-- Away from leap seconds the time gone by and the order of instants tell the same. -/
theorem isRecent_iff_start_le (inRange : now.inRange = true) (ordinary : now.Ordinary)
    (nonempty : (trailing now span).isEmpty = false) (instantInRange : instant.inRange = true)
    (instantOrdinary : instant.Ordinary) :
    (trailing now span).isRecent instant = true ↔ (trailing now span).start ≤ instant := by
  have held := Instant.held_of_ordinary inRange ordinary
  have instantHeld := Instant.held_of_ordinary instantInRange instantOrdinary
  rw [isRecent_iff_start_le_iff held nonempty instantHeld]
  exact not_misjudged_of_ordinary ordinary instantOrdinary

/-- The same for whatever a timestamp can say, with what rules a misjudgement out. -/
theorem isRecent_iff_start_le_iff_of_read {text : String} (held : now.Held)
    (nonempty : (trailing now span).isEmpty = false)
    (read : Timestamp.read text = some instant) :
    (((trailing now span).isRecent instant = true ↔ (trailing now span).start ≤ instant) ↔
        ¬ (trailing now span).Misjudged instant) ∧
      (now.Ordinary → instant.Ordinary → ¬ (trailing now span).Misjudged instant) := by
  constructor
  · apply isRecent_iff_start_le_iff held nonempty
    exact Timestamp.held_of_read read
  · intro ordinary instantOrdinary
    exact not_misjudged_of_ordinary ordinary instantOrdinary

/-- The start of the hour before noon, which is not misjudged, and two instants at the turn of the
year that are: the leap second from noon on, and a tenth of a second of the new year from inside the
leap second, both as timestamps say them. -/
theorem isRecent_iff_start_le_iff_at_eleven_and_new_year :
    let hour := trailing ⟨1654862400, 0⟩ ⟨3600000000000⟩
    let halfDay := trailing ⟨1483272000, 0⟩ ⟨43200000000000⟩
    let halfSecond := trailing ⟨1483228799, 1900000000⟩ ⟨500000000⟩
    (((hour.isRecent ⟨1654858800, 0⟩ = true ↔ hour.start ≤ ⟨1654858800, 0⟩) ↔
          ¬ hour.Misjudged ⟨1654858800, 0⟩) ∧ ¬ hour.Misjudged ⟨1654858800, 0⟩) ∧
      (((halfDay.isRecent ⟨1483228799, 1000000000⟩ = true ↔
          halfDay.start ≤ ⟨1483228799, 1000000000⟩) ↔
            ¬ halfDay.Misjudged ⟨1483228799, 1000000000⟩) ∧
        halfDay.Misjudged ⟨1483228799, 1000000000⟩) ∧
      ((halfSecond.isRecent ⟨1483228800, 100000000⟩ = true ↔
          halfSecond.start ≤ ⟨1483228800, 100000000⟩) ↔
            ¬ halfSecond.Misjudged ⟨1483228800, 100000000⟩) ∧
        halfSecond.Misjudged ⟨1483228800, 100000000⟩ := by
  have atEleven := isRecent_iff_start_le_iff_of_read
    (⟨by decide, by decide⟩ : Instant.Held ⟨1654862400, 0⟩)
    (by decide : (trailing ⟨1654862400, 0⟩ ⟨3600000000000⟩).isEmpty = false)
    (by decide : Timestamp.read "2022-06-10T11:00:00" = some ⟨1654858800, 0⟩)
  have atLeap := isRecent_iff_start_le_iff_of_read
    (⟨by decide, by decide⟩ : Instant.Held ⟨1483272000, 0⟩)
    (by decide : (trailing ⟨1483272000, 0⟩ ⟨43200000000000⟩).isEmpty = false)
    (by decide : Timestamp.read "2016-12-31T23:59:60" = some ⟨1483228799, 1000000000⟩)
  have insideLeap := isRecent_iff_start_le_iff_of_read
    (⟨by decide, by decide⟩ : Instant.Held ⟨1483228799, 1900000000⟩)
    (by decide : (trailing ⟨1483228799, 1900000000⟩ ⟨500000000⟩).isEmpty = false)
    (by decide : Timestamp.read "2017-01-01T00:00:00.1" = some ⟨1483228800, 100000000⟩)
  exact ⟨⟨atEleven.1, atEleven.2 (by decide) (by decide)⟩, ⟨atLeap.1, by decide⟩, insideLeap.1,
    by decide⟩

/-- The leap second before the year 2017 lies before the start of the half day until noon, yet no
more than that half day has gone by since. -/
theorem isRecent_before_start :
    Timestamp.read "2016-12-31T23:59:60" = some ⟨1483228799, 1000000000⟩ ∧
      (trailing ⟨1483272000, 0⟩ ⟨43200000000000⟩).isEmpty = false ∧
      (trailing ⟨1483272000, 0⟩ ⟨43200000000000⟩).isRecent ⟨1483228799, 1000000000⟩ = true ∧
      ¬ (trailing ⟨1483272000, 0⟩ ⟨43200000000000⟩).start ≤ ⟨1483228799, 1000000000⟩ := by
  decide

end Trailing

end SwarmChart.Window
