import SwarmChart.Calendar.DayCount
import SwarmChart.Timestamp.Fields

/-!
# Fields name the instant they come from

An instant that stands for a moment of the calendar range, a leap second only at the end of its
minute, has fields that name it again (`Fields.instant?_ofInstant`).
-/

set_option autoImplicit false

namespace SwarmChart.Timestamp.Fields

/-- The fields of an instant give that instant, a leap second only as the last one of its minute. -/
theorem instant_ofInstant {instant : Instant} (bound : instant.nanos < 2 * nanosPerSecond)
    (leap : nanosPerSecond ≤ instant.nanos → instant.seconds % 60 = 59) :
    (ofInstant instant).instant = instant := by
  obtain ⟨seconds, nanos⟩ := instant
  simp only [Fields.instant, ofInstant, Date.dayNumber_ofDayNumber, Instant.day,
    Instant.secondOfDay, Instant.secondsPerDay, nanosPerSecond] at *
  have inDay : ((seconds % 86400).toNat : Int) = seconds % 86400 :=
    Int.toNat_of_nonneg (by omega)
  generalize (seconds % 86400).toNat = second at *
  -- Second 60 arises from a leap second only, as every other second is below 60.
  split
  · congr 1 <;> omega
  · congr 1 <;> omega

/-- The fields of an instant that the calendar holds are valid. -/
theorem isValid_ofInstant {instant : Instant} (held : instant.inRange = true)
    (bound : instant.nanos < 2 * nanosPerSecond) : (ofInstant instant).isValid = true := by
  simp only [Instant.inRange, Bool.and_eq_true, decide_eq_true_eq] at held
  have inDay : instant.secondOfDay < 86400 := by
    simp only [Instant.secondOfDay, Instant.secondsPerDay]
    omega
  have hour : instant.secondOfDay / 3600 < 24 := by omega
  have minute : instant.secondOfDay / 60 % 60 < 60 := by omega
  have second : instant.secondOfDay % 60 + instant.nanos / nanosPerSecond ≤ 60 := by
    simp only [nanosPerSecond] at bound ⊢
    omega
  simp [isValid, ofInstant, Date.isValid_ofDayNumber, Date.inRange_ofDayNumber held.1 held.2,
    hour, minute, second]

/-- An instant comes back from its fields, if the second that it leaps behind ends a minute. -/
theorem instant?_ofInstant {instant : Instant} (held : instant.inRange = true)
    (bound : instant.nanos < 2 * nanosPerSecond)
    (leap : nanosPerSecond ≤ instant.nanos → instant.seconds % 60 = 59) :
    (ofInstant instant).instant? = some instant := by
  rw [Fields.instant?, if_pos (isValid_ofInstant held bound), instant_ofInstant bound leap]

end SwarmChart.Timestamp.Fields
