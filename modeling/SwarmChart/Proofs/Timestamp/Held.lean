import Mathlib.Data.List.Induction
import Mathlib.Data.List.TakeWhile
import SwarmChart.Calendar.DayCount
import SwarmChart.Proofs.Instant.Line
import SwarmChart.Timestamp

/-!
# Every timestamp is a moment that the calendar holds

Whatever text is read, the calendar holds the instant that comes out (`Timestamp.held_of_read`): its
fraction stays below a second, and the zone of the zoned notation moves years of four digits by less
than a day, so never out of the calendar range.
-/

set_option autoImplicit false

namespace SwarmChart

namespace Decimal

theorem tenTo_succ (exponent : Nat) : tenTo (exponent + 1) = tenTo exponent * 10 := rfl

theorem tenTo_add (a b : Nat) : tenTo (a + b) = tenTo a * tenTo b := Nat.pow_add 10 a b

theorem tenTo_pos (exponent : Nat) : 0 < tenTo exponent := Nat.pow_pos (by decide)

theorem value_append_singleton (front : List Char) (c : Char) :
    value (front ++ [c]) = 10 * value front + (c.toNat - '0'.toNat) := by
  rw [value, value, Nat.ofDigitChars_append]
  rfl

/-- A run of digits writes a number below the power of ten of its length. -/
theorem value_lt {front : List Char} (digits : ∀ c ∈ front, c.isDigit = true) :
    value front < tenTo front.length := by
  induction front using List.reverseRecOn with
  | nil => exact Nat.one_pos
  | append_singleton front c ih =>
    have before := ih fun d hd => digits d (List.mem_append_left _ hd)
    have digit := Char.isDigit_iff_toNat.1 (digits c (by simp))
    have nine : '9'.toNat = '0'.toNat + 9 := rfl
    rw [value_append_singleton, List.length_append, List.length_singleton, tenTo_succ]
    omega

theorem value_leading_lt (width : Nat) (text : List Char) :
    value (leading width text) < tenTo (leading width text).length :=
  value_lt fun _ h => List.mem_takeWhile_imp h

end Decimal

namespace Date

/-- The end of every month lies within its year. -/
theorem daysBeforeMonth_add_le : ∀ leap : Bool, ∀ passed < 12,
    daysBeforeMonth leap (passed + 1) + (monthLengths leap).getD passed 0 ≤
      (monthLengths leap).foldr (· + ·) 0 := by
  decide

/-- A date of the calendar lies in its own year. -/
theorem dayNumber_of_isValid {date : Date} (valid : date.isValid = true) :
    daysBeforeYear date.year ≤ date.dayNumber + epochOffset ∧
      date.dayNumber + epochOffset < daysBeforeYear (date.year + 1) := by
  simp only [isValid, Bool.and_eq_true, decide_eq_true_eq] at valid
  obtain ⟨⟨⟨month_pos, month_le⟩, day_pos⟩, day_le⟩ := valid
  have inYear := daysBeforeMonth_add_le (isLeapYear date.year) (date.month - 1) (by omega)
  rw [Nat.sub_add_cancel month_pos, foldr_monthLengths] at inYear
  rw [daysBeforeYear_add_one, dayNumber]
  omega

/-- A date of the calendar range has a day number of that range. -/
theorem dayNumber_of_inRange {date : Date} (valid : date.isValid = true)
    (held : date.inRange = true) :
    first.dayNumber ≤ date.dayNumber ∧ date.dayNumber ≤ last.dayNumber := by
  obtain ⟨least, most⟩ := dayNumber_of_isValid valid
  simp only [inRange, Bool.and_eq_true, decide_eq_true_eq] at held
  have low : first.dayNumber + epochOffset = daysBeforeYear first.year := by decide
  have high : last.dayNumber + epochOffset + 1 = daysBeforeYear (last.year + 1) := by decide
  have after := daysBeforeYear_mono held.1
  have before := daysBeforeYear_mono (Int.add_le_add_right held.2 1)
  omega

end Date

namespace Timestamp

/-! ## Fields -/

/-- A fraction is less than a second, however many digits it has. -/
theorem nanosOfFraction_lt {front : List Char} (digits : ∀ c ∈ front, c.isDigit = true) :
    nanosOfFraction front < nanosPerSecond := by
  have nine : (front.take 9).length + (9 - front.length) = 9 := by
    rw [List.length_take]
    omega
  calc nanosOfFraction front
      = Decimal.value (front.take 9) * Decimal.tenTo (9 - front.length) := rfl
    _ < Decimal.tenTo (front.take 9).length * Decimal.tenTo (9 - front.length) :=
        Nat.mul_lt_mul_of_pos_right
          (Decimal.value_lt fun c h => digits c (List.mem_of_mem_take h)) (Decimal.tenTo_pos _)
    _ = nanosPerSecond := by
        rw [← Decimal.tenTo_add, nine]
        rfl

theorem nanos_of_fraction {text rest : List Char} {nanos : Nat}
    (h : fraction text = some (nanos, rest)) : nanos < nanosPerSecond := by
  unfold fraction at h
  split at h
  · split at h
    · cases h
    · cases h
      exact nanosOfFraction_lt fun _ => List.mem_takeWhile_imp
  · cases h
    decide

/-- The instant that fields name lies on the day that their date names. -/
theorem seconds_of_isValid {fields : Fields} (valid : fields.isValid = true) :
    fields.date.dayNumber * 86400 ≤ fields.instant.seconds ∧
      fields.instant.seconds < (fields.date.dayNumber + 1) * 86400 := by
  simp only [Fields.isValid, Bool.and_eq_true, decide_eq_true_eq] at valid
  obtain ⟨⟨⟨-, hour⟩, minute⟩, second⟩ := valid
  unfold Fields.instant
  simp only [Instant.secondsPerDay]
  split <;> dsimp only <;> omega

theorem nanos_of_nanos {fields : Fields} (below : fields.nanos < nanosPerSecond) :
    fields.instant.nanos < 2 * nanosPerSecond := by
  unfold Fields.instant
  split <;> dsimp only <;> omega

/-! ## The notation without a zone -/

theorem nanos_of_bareFields {text rest : List Char} {fields : Fields}
    (h : Bare.fields text = some (fields, rest)) : fields.nanos < nanosPerSecond := by
  unfold Bare.fields at h
  simp only [Option.bind_eq_bind, Option.bind_eq_some_iff, Prod.exists] at h
  obtain ⟨_, _, -, _, _, -, _, _, -, _, _, -, _, _, -, _, _, -, _, _, -, _, _, -, _, _, -, _, _, -,
    _, _, -, nanos, _, readFraction, done⟩ := h
  cases done
  exact nanos_of_fraction readFraction

/-- The calendar holds the instant of valid fields. -/
theorem held_of_isValid {fields : Fields} (valid : fields.isValid = true)
    (below : fields.nanos < nanosPerSecond) : fields.instant.Held := by
  refine ⟨?_, nanos_of_nanos below⟩
  obtain ⟨after, before⟩ := seconds_of_isValid valid
  simp only [Fields.isValid, Bool.and_eq_true] at valid
  obtain ⟨least, most⟩ := Date.dayNumber_of_inRange valid.1.1.1.1 valid.1.1.1.2
  rw [Instant.inRange_iff]
  simp only [Instant.earliest, Instant.latest, Instant.secondsPerDay]
  omega

/-- The calendar holds what is read without a zone. -/
theorem held_of_bareRead {text : List Char} {instant : Instant}
    (h : Bare.read text = some instant) : instant.Held := by
  unfold Bare.read at h
  simp only [Option.bind_eq_bind, Option.bind_eq_some_iff, Prod.exists] at h
  obtain ⟨fields, rest, readFields, h⟩ := h
  split at h
  · unfold Fields.instant? at h
    split at h
    · next valid =>
      cases h
      exact held_of_isValid valid (nanos_of_bareFields readFields)
    · cases h
  · cases h

/-! ## The notation with a zone -/

theorem fixedNumber_lt {width : Nat} {text rest : List Char} {number : Nat}
    (h : Text.Reader.fixedNumber width text = some (number, rest)) :
    number < Decimal.tenTo width := by
  simp only [Text.Reader.fixedNumber] at h
  split at h
  · next full =>
    cases h
    have below := Decimal.value_leading_lt width text
    rwa [full] at below
  · cases h

/-- A full timestamp has a year of four digits. -/
theorem zonedFields_bounds {text rest : List Char} {fields : Fields}
    (h : Zoned.fields text = some (fields, rest)) :
    (0 ≤ fields.date.year ∧ fields.date.year < 10000) ∧ fields.nanos < nanosPerSecond := by
  unfold Zoned.fields at h
  simp only [Option.bind_eq_bind, Option.bind_eq_some_iff, Prod.exists] at h
  obtain ⟨year, _, readYear, _, _, -, _, _, -, _, _, -, _, _, -, _, _, -, _, _, -, _, _, -, _, _,
    -, _, _, -, _, _, -, nanos, _, readFraction, done⟩ := h
  cases done
  have below : year < 10000 := fixedNumber_lt readYear
  refine ⟨⟨?_, ?_⟩, nanos_of_fraction readFraction⟩
  · dsimp only
    omega
  · dsimp only
    omega

/-- An offset is less than a day. -/
theorem offsetSize_lt {text rest : List Char} {size : Nat}
    (h : Zoned.offsetSize text = some (size, rest)) : size < 86400 := by
  unfold Zoned.offsetSize at h
  simp only [Option.bind_eq_bind, Option.bind_eq_some_iff, Prod.exists] at h
  obtain ⟨hours, _, -, _, _, -, minutes, _, -, h⟩ := h
  split at h
  · cases h
    omega
  · cases h

/-- A zone is ahead of universal time, or behind it, by less than a day. -/
theorem zone_bounds {text rest : List Char} {ahead : Int}
    (h : Zoned.zone text = some (ahead, rest)) : -86400 < ahead ∧ ahead < 86400 := by
  unfold Zoned.zone at h
  split at h
  · split at h
    · cases h
      decide
    · split at h
      · obtain ⟨⟨size, _⟩, readSize, done⟩ := Option.map_eq_some_iff.1 h
        have below := offsetSize_lt readSize
        cases done
        omega
      · split at h
        · obtain ⟨⟨size, _⟩, readSize, done⟩ := Option.map_eq_some_iff.1 h
          have below := offsetSize_lt readSize
          cases done
          omega
        · cases h
  · cases h

/-- The years of four digits are so far inside the calendar range that no zone leaves it. -/
theorem held_of_zoned {fields : Fields} (valid : fields.isValid = true)
    (year : 0 ≤ fields.date.year ∧ fields.date.year < 10000)
    (below : fields.nanos < nanosPerSecond) {ahead : Int}
    (zone : -86400 < ahead ∧ ahead < 86400) :
    (⟨fields.instant.seconds - ahead, fields.instant.nanos⟩ : Instant).Held := by
  refine ⟨?_, nanos_of_nanos below⟩
  obtain ⟨after, before⟩ := seconds_of_isValid valid
  simp only [Fields.isValid, Bool.and_eq_true] at valid
  obtain ⟨least, most⟩ := Date.dayNumber_of_isValid valid.1.1.1.1
  have low := daysBeforeYear_mono year.1
  have high := daysBeforeYear_mono (Int.add_one_le_of_lt year.2)
  have zero : daysBeforeYear 0 = -366 := by decide
  have tenThousand : daysBeforeYear 10000 = 3652059 := by decide
  have earliest : Instant.earliest.seconds = -8334601228800 := by decide
  have latest : Instant.latest.seconds = 8210266876799 := by decide
  rw [Instant.inRange_iff, earliest, latest]
  dsimp only
  rw [epochOffset] at least most
  omega

/-- The calendar holds what is read with a zone: four digits leave room for every offset. -/
theorem held_of_zonedRead {text : List Char} {instant : Instant}
    (h : Zoned.read text = some instant) : instant.Held := by
  unfold Zoned.read at h
  simp only [Option.bind_eq_bind, Option.bind_eq_some_iff, Prod.exists] at h
  obtain ⟨fields, _, readFields, ahead, rest, readZone, h⟩ := h
  obtain ⟨year, below⟩ := zonedFields_bounds readFields
  split at h
  · simp only [Option.bind_eq_some_iff] at h
    obtain ⟨shown, named, done⟩ := h
    unfold Fields.instant? at named
    split at named
    · next valid =>
      cases named
      cases done
      exact held_of_zoned valid year below (zone_bounds readZone)
    · cases named
  · cases h

/-! ## Both notations -/

/-- Whatever text a timestamp is read from, the calendar holds it. -/
theorem held_of_read {text : String} {instant : Instant} (h : read text = some instant) :
    instant.Held := by
  simp only [read, readChars] at h
  split at h
  · next zoned =>
    cases h
    exact held_of_zonedRead zoned
  · exact held_of_bareRead h

end Timestamp

end SwarmChart
