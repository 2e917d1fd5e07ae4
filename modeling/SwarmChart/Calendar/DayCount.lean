import SwarmChart.Calendar

/-!
# Counting days

The two directions of the day count agree: the date of a day number has that number
(`Date.dayNumber_ofDayNumber`) and is a date that the calendar has (`Date.isValid_ofDayNumber`).
Both rest on the same statement about years, that the day of the year found for a day lies within
the year found for it (`Date.daysBeforeYear_yearOfDay`, `Date.yearOfDay_lt_yearLength`), and on the
one about months (`Date.inMonths_eq`). Days of the calendar range give dates of that range
(`Date.inRange_ofDayNumber`).
-/

set_option autoImplicit false

namespace SwarmChart

theorem daysBeforeYear_mono {a b : Int} (h : a ≤ b) : daysBeforeYear a ≤ daysBeforeYear b := by
  unfold daysBeforeYear
  omega

/-- A year is as long as the way to the next one. -/
theorem daysBeforeYear_add_one (year : Int) :
    daysBeforeYear (year + 1) = daysBeforeYear year + yearLength year := by
  unfold daysBeforeYear yearLength
  split
  all_goals
    next leap =>
      simp only [isLeapYear, Bool.and_eq_true, Bool.or_eq_true, beq_iff_eq, bne_iff_ne, ne_eq]
        at leap
      omega

theorem foldr_monthLengths (year : Int) :
    (monthLengths (isLeapYear year)).foldr (· + ·) 0 = yearLength year := by
  unfold yearLength
  cases isLeapYear year <;> rfl

namespace Date

/-- The year and the day of the year of a day, as one statement: the cycles are peeled off from the
longest to the shortest, and what is left is always less than the next cycle. -/
theorem yearOfDay_eq (day : Int) :
    daysBeforeYear (yearOfDay day).1 + (yearOfDay day).2 = day ∧
      (yearOfDay day).2 < yearLength (yearOfDay day).1 := by
  unfold yearOfDay daysBeforeYear
  have hr : ((day % 146097).toNat : Int) = day % 146097 := Int.toNat_of_nonneg (by omega)
  have hb : (day % 146097).toNat < 146097 := by omega
  generalize (day % 146097).toNat = inCycle at *
  generalize hq : day / 146097 = cycles at *
  obtain rfl : day = 146097 * cycles + inCycle := by omega
  clear hr hq
  dsimp only
  -- A cycle of 400 years has three short centuries and then a long one.
  generalize hc : min (inCycle / 36524) 3 = century
  have hc3 : century ≤ 3 := by omega
  have shortCentury : century < 3 → inCycle - 36524 * century < 36524 := by omega
  have longCentury : inCycle - 36524 * century < 36525 := by omega
  have split : inCycle = 36524 * century + (inCycle - 36524 * century) := by omega
  generalize inCycle - 36524 * century = inCentury at *
  -- A century has 25 spans of four years, the last of which may lack a day.
  generalize hq4 : inCentury / 1461 = quad
  have splitCentury : inCentury = 1461 * quad + inCentury % 1461 := by omega
  have inQuad_lt : inCentury % 1461 < 1461 := by omega
  generalize inCentury % 1461 = inQuad at *
  have lastQuad : century < 3 → quad = 24 → inQuad < 1460 := by omega
  -- Four years are three short ones and then one that may be long.
  generalize hs : min (inQuad / 365) 3 = single
  have hs3 : single ≤ 3 := by omega
  have shortYear : single < 3 → inQuad - 365 * single < 365 := by omega
  have longYear : inQuad - 365 * single ≤ 365 := by omega
  have fours : ((400 * cycles + 100 * century + 4 * quad + single + 1 - 1) / 4 : Int)
      = 100 * cycles + 25 * century + quad := by omega
  have hundreds : ((400 * cycles + 100 * century + 4 * quad + single + 1 - 1) / 100 : Int)
      = 4 * cycles + century := by omega
  have fourHundreds : ((400 * cycles + 100 * century + 4 * quad + single + 1 - 1) / 400 : Int)
      = cycles := by omega
  rw [fours, hundreds, fourHundreds]
  constructor
  · omega
  · unfold yearLength
    split
    · omega
    · next hl =>
      simp only [isLeapYear, Bool.and_eq_true, Bool.or_eq_true, beq_iff_eq, bne_iff_ne, ne_eq]
        at hl
      omega

/-- A day is found behind the years before its own. -/
theorem daysBeforeYear_yearOfDay (day : Int) :
    daysBeforeYear (yearOfDay day).1 + (yearOfDay day).2 = day := (yearOfDay_eq day).1

/-- A day lies within the year that is found for it. -/
theorem yearOfDay_lt_yearLength (day : Int) :
    (yearOfDay day).2 < yearLength (yearOfDay day).1 := (yearOfDay_eq day).2

/-- A day that lies within months of the given lengths is found in one of them, behind the days of
the months before it. -/
theorem inMonths_eq (lengths : List Nat) (first day : Nat) (h : day < lengths.foldr (· + ·) 0) :
    ∃ passed < lengths.length,
      (inMonths lengths first day).1 = first + passed ∧
      (lengths.take passed).foldr (· + ·) 0 + (inMonths lengths first day).2 = day + 1 ∧
      1 ≤ (inMonths lengths first day).2 ∧
      (inMonths lengths first day).2 ≤ lengths.getD passed 0 := by
  induction lengths generalizing first day with
  | nil => exact absurd h (Nat.not_lt_zero day)
  | cons length later ih =>
    unfold inMonths
    split
    · next inside => exact ⟨0, Nat.zero_lt_succ _, rfl, Nat.zero_add _, by omega, inside⟩
    · next beyond =>
      rw [List.foldr_cons] at h
      obtain ⟨passed, bound, month, total, least, most⟩ :=
        ih (first + 1) (day - length) (by omega)
      refine ⟨passed + 1, Nat.succ_lt_succ bound, by omega, ?_, least, by simpa using most⟩
      rw [List.take_succ_cons, List.foldr_cons]
      omega

/-- The date of a day number, with the statements about its year and its month put together. -/
theorem ofDayNumber_eq (number : Int) :
    (ofDayNumber number).dayNumber = number ∧ (ofDayNumber number).isValid = true := by
  have years := yearOfDay_eq (number + epochOffset)
  unfold ofDayNumber
  generalize yearOfDay (number + epochOffset) = found at *
  obtain ⟨year, inYear⟩ := found
  dsimp only at years ⊢
  rw [← foldr_monthLengths] at years
  obtain ⟨passed, bound, month, total, least, most⟩ := inMonths_eq _ 1 _ years.2
  generalize inMonths (monthLengths (isLeapYear year)) 1 inYear = found at *
  obtain ⟨monthNumber, day⟩ := found
  dsimp only at month total least most ⊢
  subst month
  have twelve : passed < 12 := bound
  constructor
  · simp only [dayNumber, daysBeforeMonth, Nat.add_sub_cancel_left]
    omega
  · simp only [isValid, Nat.add_sub_cancel_left, Bool.and_eq_true, decide_eq_true_eq]
    omega

/-- Counting the days up to a date undoes finding the date of a day. -/
theorem dayNumber_ofDayNumber (number : Int) : (ofDayNumber number).dayNumber = number :=
  (ofDayNumber_eq number).1

/-- The date found for a day is one that the calendar has. -/
theorem isValid_ofDayNumber (number : Int) : (ofDayNumber number).isValid = true :=
  (ofDayNumber_eq number).2

/-! ## The range of years -/

/-- A day before the end of a year belongs to that year or to one before it. -/
theorem year_ofDayNumber_le {number year : Int}
    (h : number + epochOffset < daysBeforeYear (year + 1)) : (ofDayNumber number).year ≤ year := by
  have before := daysBeforeYear_yearOfDay (number + epochOffset)
  apply Int.not_lt.1
  intro later
  have : daysBeforeYear (year + 1) ≤ daysBeforeYear (yearOfDay (number + epochOffset)).1 :=
    daysBeforeYear_mono later
  omega

/-- A day from the beginning of a year on belongs to that year or to one after it. -/
theorem le_year_ofDayNumber {number year : Int} (h : daysBeforeYear year ≤ number + epochOffset) :
    year ≤ (ofDayNumber number).year := by
  have before := daysBeforeYear_yearOfDay (number + epochOffset)
  have inside := yearOfDay_lt_yearLength (number + epochOffset)
  apply Int.not_lt.1
  intro sooner
  have : daysBeforeYear ((yearOfDay (number + epochOffset)).1 + 1) ≤ daysBeforeYear year :=
    daysBeforeYear_mono sooner
  rw [daysBeforeYear_add_one] at this
  omega

/-- The days between the first and the last date lie in the years between theirs. -/
theorem inRange_ofDayNumber {number : Int} (least : first.dayNumber ≤ number)
    (most : number ≤ last.dayNumber) : (ofDayNumber number).inRange = true := by
  have low : first.dayNumber + epochOffset = daysBeforeYear first.year := by decide
  have high : last.dayNumber + epochOffset + 1 = daysBeforeYear (last.year + 1) := by decide
  simp only [inRange, Bool.and_eq_true, decide_eq_true_eq]
  exact ⟨le_year_ofDayNumber (by omega), year_ofDayNumber_le (by omega)⟩

end Date

end SwarmChart
