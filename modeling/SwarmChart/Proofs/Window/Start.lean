import SwarmChart.Window
import SwarmChart.Proofs.Instant.Line

/-!
# Where a trailing window starts

A trailing window that is not empty starts in one of four ways (`Window.StartsBy`), and
`Window.startsBy_of_not_isEmpty` is the only place that looks into the arithmetic behind its start.
For an ordinary present only two of them are left.
-/

set_option autoImplicit false

namespace SwarmChart.Window

@[simp]
theorem finish_trailing (now : Instant) (span : Span) : (trailing now span).finish = now := rfl

@[simp]
theorem span_trailing (now : Instant) (span : Span) : (trailing now span).span = span := rfl

theorem isEmpty_eq_false_iff (window : Window) :
    window.isEmpty = false ↔ window.start < window.finish := by
  rw [isEmpty, decide_eq_false_iff_not, Std.not_le]

/-- The ways in which the start of a window that is not empty lies before its finish. -/
inductive StartsBy (window : Window) : Prop
  /-- The whole span before the finish on the line. -/
  | line (ordinary : window.start.Ordinary)
      (apart : window.start.onLine = window.finish.onLine - window.span.nanos)
      (reach : window.finish.Ordinary ∨ nanosPerSecond ≤ window.span.nanos)
  /-- At the beginning of the calendar range, which the span would pass. -/
  | beginning (start : window.start = Instant.earliest)
      (beyond : window.finish.onLine - window.span.nanos < Instant.earliest.onLine)
      (reach : window.finish.Ordinary ∨ nanosPerSecond ≤ window.span.nanos)
  /-- In the very second of a finish that lies inside a leap second. -/
  | sameSecond (leap : ¬ window.finish.Ordinary)
      (second : window.start.seconds = window.finish.seconds)
      (apart : window.start.nanos + window.span.nanos = window.finish.nanos)
      (short : 0 < window.span.nanos ∧ window.span.nanos < nanosPerSecond)
  /-- At the end of the calendar range, which a negative span would pass, with the finish inside
  the leap second behind it. -/
  | ending (leap : ¬ window.finish.Ordinary) (start : window.start = Instant.latest)
      (second : window.finish.seconds = Instant.latest.seconds)
      (beyond : 2 * nanosPerSecond ≤ window.finish.nanos - window.span.nanos)

/-- The start of a trailing window, with the calendar range counted in seconds. -/
theorem start_trailing (now : Instant) (span : Span) :
    (trailing now span).start =
      if Instant.earliest.seconds ≤ (now.advance (-span)).seconds ∧
          (now.advance (-span)).seconds ≤ Instant.latest.seconds then now.advance (-span)
      else if 0 < span.nanos then Instant.earliest
      else Instant.latest := by
  simp only [trailing, Instant.inRange_iff]
  rfl

/-- From an ordinary present the start is found on the line, or it is the beginning of the calendar.
-/
theorem startsBy_of_ordinary {now : Instant} (inRange : now.inRange = true)
    (ordinary : now.Ordinary) {span : Span} (nonempty : (trailing now span).isEmpty = false) :
    (trailing now span).StartsBy := by
  obtain ⟨after_earliest, before_latest⟩ := (Instant.inRange_iff now).1 inRange
  have before := (isEmpty_eq_false_iff _).1 nonempty
  have start := start_trailing now span
  have moved : now.advance (-span) = Instant.ofLine (now.onLine - span.nanos) :=
    Instant.advance_of_ordinary ordinary (-span)
  rw [moved] at start
  split at start
  · refine .line ?_ ?_ (Or.inl ordinary)
    · rw [start]
      exact Instant.ofLine_ordinary _
    · rw [start]
      exact Instant.onLine_ofLine _
  · next outside =>
    split at start
    · next positive =>
      refine .beginning start ?_ (Or.inl ordinary)
      simp only [Instant.ofLine, Instant.onLine, Instant.Ordinary, Instant.earliest,
        Instant.latest, finish_trailing, span_trailing, nanosPerSecond] at *
      omega
    · rw [start, Instant.lt_iff, finish_trailing] at before
      simp only [Instant.Ordinary, Instant.latest, nanosPerSecond] at *
      omega

section Leap

variable {now : Instant} {span : Span} (held : now.Held) (leap : ¬ now.Ordinary)

include held leap

/-- A span of a second or more leads backwards out of the leap second, along the line. -/
theorem startsBy_of_backwards (backwards : nanosPerSecond ≤ span.nanos) :
    (trailing now span).StartsBy := by
  obtain ⟨after_earliest, before_latest⟩ := (Instant.inRange_iff now).1 held.inRange
  have bound := held.bound
  have start := start_trailing now span
  have moved : now.advance (-span) = Instant.ofLine (now.onLine + -span.nanos) := by
    have inside : ¬ 2 * (nanosPerSecond : Int) ≤ now.nanos + -span.nanos := by omega
    have back : -span.nanos ≤ -(nanosPerSecond : Int) := by omega
    rw [Instant.advance_of_leap leap bound]
    exact (if_neg inside).trans (if_pos back)
  split at start
  · refine .line ?_ ?_ (Or.inr backwards)
    · rw [start, moved]
      exact Instant.ofLine_ordinary _
    · rw [start, moved]
      exact Instant.onLine_ofLine _
  · next outside =>
    rw [if_pos (by omega)] at start
    refine .beginning start ?_ (Or.inr backwards)
    rw [moved] at outside
    simp only [Instant.ofLine, Instant.onLine, Instant.earliest, finish_trailing, span_trailing,
      nanosPerSecond] at *
    omega

variable (nonempty : (trailing now span).isEmpty = false)

include nonempty

/-- A span so negative that it leaves the leap second onwards: the start would lie behind the
finish, were it not for the end of the calendar range. -/
theorem startsBy_of_onwards (onwards : 2 * nanosPerSecond ≤ now.nanos - span.nanos) :
    (trailing now span).StartsBy := by
  obtain ⟨after_earliest, before_latest⟩ := (Instant.inRange_iff now).1 held.inRange
  have bound := held.bound
  have before := (isEmpty_eq_false_iff _).1 nonempty
  have start := start_trailing now span
  have moved : now.advance (-span) =
      Instant.ofLine (now.onLine - nanosPerSecond + -span.nanos) := by
    rw [Instant.advance_of_leap leap bound]
    exact if_pos onwards
  have later : now.seconds < (now.advance (-span)).seconds := by
    rw [moved]
    simp only [Instant.ofLine, Instant.onLine, nanosPerSecond] at *
    omega
  split at start
  -- Inside the calendar the start would not be before the finish.
  · rw [start, Instant.lt_iff, finish_trailing] at before
    omega
  · rw [if_neg (by omega)] at start
    refine .ending leap start ?_ onwards
    rw [start, Instant.lt_iff] at before
    rw [finish_trailing] at *
    omega

/-- A span that leads out of the leap second on neither side leaves the start in the same second. -/
theorem startsBy_of_inside (inside : now.nanos - span.nanos < 2 * nanosPerSecond)
    (short : span.nanos < nanosPerSecond) : (trailing now span).StartsBy := by
  have range := (Instant.inRange_iff now).1 held.inRange
  have bound := held.bound
  have before := (isEmpty_eq_false_iff _).1 nonempty
  have start := start_trailing now span
  have part : nanosPerSecond ≤ now.nanos := Nat.not_lt.1 leap
  have moved : now.advance (-span) = ⟨now.seconds, (now.nanos + -span.nanos).toNat⟩ := by
    have notOut : ¬ 2 * (nanosPerSecond : Int) ≤ now.nanos + -span.nanos := by omega
    have notBack : ¬ -span.nanos ≤ -(nanosPerSecond : Int) := by omega
    rw [Instant.advance_of_leap leap bound]
    exact (if_neg notOut).trans (if_neg notBack)
  rw [moved, if_pos range] at start
  rw [start, Instant.lt_iff, finish_trailing] at before
  dsimp only at before
  refine .sameSecond leap ?_ ?_ ?_
  · rw [start, finish_trailing]
  · rw [start, finish_trailing, span_trailing]
    dsimp only
    omega
  · rw [span_trailing]
    omega

/-- From inside a leap second one of these three ways is taken. -/
theorem startsBy_of_leap : (trailing now span).StartsBy := by
  by_cases onwards : 2 * (nanosPerSecond : Int) ≤ now.nanos - span.nanos
  · exact startsBy_of_onwards held leap nonempty onwards
  · by_cases backwards : (nanosPerSecond : Int) ≤ span.nanos
    · exact startsBy_of_backwards held leap backwards
    · exact startsBy_of_inside held leap nonempty (Int.not_le.1 onwards) (Int.not_le.1 backwards)

end Leap

/-- Every window that is not empty starts in one of the four ways. -/
theorem startsBy_of_not_isEmpty {now : Instant} (held : now.Held) {span : Span}
    (nonempty : (trailing now span).isEmpty = false) : (trailing now span).StartsBy := by
  by_cases ordinary : now.Ordinary
  · exact startsBy_of_ordinary held.inRange ordinary nonempty
  · exact startsBy_of_leap held ordinary nonempty

end SwarmChart.Window
