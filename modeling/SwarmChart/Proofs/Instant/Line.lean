import SwarmChart.Instant

/-!
# Instants in order and on the line

The order of instants is linear, and away from leap seconds it is the order of the line
(`Instant.le_iff_onLine_le`). `Instant.advance` is said once more with the whole span instead of
its seconds and the rest: as plain addition on the line for an ordinary instant
(`Instant.advance_of_ordinary`), and with the three ways out of a leap second for any other
(`Instant.advance_of_leap`).

`Instant.Held` collects what holds of every moment that the calendar can hold.
-/

set_option autoImplicit false

namespace SwarmChart

/-- The seconds of a length and the rest after them have the sign of the length. -/
theorem Span.seconds_and_rest (length : Int) :
    length = length.tdiv nanosPerSecond * nanosPerSecond + length.tmod nanosPerSecond ∧
      (0 ≤ length → 0 ≤ length.tdiv nanosPerSecond ∧ 0 ≤ length.tmod nanosPerSecond ∧
        length.tmod nanosPerSecond < nanosPerSecond) ∧
      (length ≤ 0 → length.tdiv nanosPerSecond ≤ 0 ∧ length.tmod nanosPerSecond ≤ 0 ∧
        -nanosPerSecond < length.tmod nanosPerSecond) := by
  refine ⟨(Int.tdiv_mul_add_tmod _ _).symm, ?_, ?_⟩
  · intro onwards
    rw [Int.tdiv_eq_ediv_of_nonneg onwards, Int.tmod_eq_emod_of_nonneg onwards]
    simp only [nanosPerSecond]
    omega
  · intro backwards
    obtain ⟨distance, rfl⟩ : ∃ distance, length = -distance := ⟨-length, (Int.neg_neg _).symm⟩
    have distance_nonneg : 0 ≤ distance := by omega
    rw [Int.neg_tdiv, Int.neg_tmod, Int.tdiv_eq_ediv_of_nonneg distance_nonneg,
      Int.tmod_eq_emod_of_nonneg distance_nonneg]
    simp only [nanosPerSecond]
    omega

namespace Instant

/-! ## Order -/

instance : Std.IsLinearOrder Instant where
  le_refl _ := Or.inr ⟨rfl, Nat.le_refl _⟩
  le_trans a b c hab hbc := by
    rw [le_iff] at *
    omega
  le_antisymm a b hab hba := by
    cases a
    cases b
    simp only [le_iff, Instant.mk.injEq] at *
    omega
  le_total a b := by
    simp only [le_iff]
    omega

instance : Std.LawfulOrderLT Instant where
  lt_iff a b := by
    simp only [le_iff, lt_iff]
    omega

/-! ## The line -/

theorem ofLine_ordinary (nanos : Int) : (ofLine nanos).Ordinary := by
  simp only [Ordinary, ofLine, nanosPerSecond]
  omega

theorem onLine_ofLine (nanos : Int) : (ofLine nanos).onLine = nanos := by
  simp only [onLine, ofLine, nanosPerSecond]
  omega

/-- Ordinary instants are ordered as they stand on the line. -/
theorem le_iff_onLine_le {a b : Instant} (ha : a.Ordinary) (hb : b.Ordinary) :
    a ≤ b ↔ a.onLine ≤ b.onLine := by
  simp only [Ordinary, le_iff, onLine, nanosPerSecond] at *
  omega

/-- Away from leap seconds an instant moves along the line. -/
theorem advance_of_ordinary {instant : Instant} (ordinary : instant.Ordinary) (span : Span) :
    instant.advance span = ofLine (instant.onLine + span.nanos) :=
  if_pos ordinary

/-- An instant inside a leap second leaves it onwards, backwards, or not at all. -/
theorem advance_of_leap {instant : Instant} (leap : ¬ instant.Ordinary)
    (bound : instant.nanos < 2 * nanosPerSecond) (span : Span) :
    instant.advance span =
      if 2 * nanosPerSecond ≤ instant.nanos + span.nanos then
        ofLine (instant.onLine - nanosPerSecond + span.nanos)
      else if span.nanos ≤ -nanosPerSecond then ofLine (instant.onLine + span.nanos)
      else ⟨instant.seconds, (instant.nanos + span.nanos).toNat⟩ := by
  obtain ⟨sum, onwards, backwards⟩ := Span.seconds_and_rest span.nanos
  rw [Ordinary] at leap
  simp only [advance, if_neg leap]
  generalize span.nanos.tdiv nanosPerSecond = whole at *
  generalize span.nanos.tmod nanosPerSecond = part at *
  simp only [nanosPerSecond] at *
  -- Whole seconds and the rest of the span have one sign, so both conditions are on their sum.
  have out : (0 < whole ∨ 0 < part ∧ 2 * (1000000000 : Nat) ≤ instant.nanos + part) ↔
      2 * (1000000000 : Nat) ≤ instant.nanos + span.nanos := by
    omega
  have back : whole < 0 ↔ span.nanos ≤ -(1000000000 : Nat) := by omega
  simp only [out, back]
  split
  · rfl
  · split
    · rfl
    · congr 2
      omega

/-! ## The time gone by -/

/-- The time gone by is the distance on the line and the leap second that counts. -/
theorem since_nanos (later sooner : Instant) :
    (later.since sooner).nanos =
      later.onLine - sooner.onLine + leapBetween later sooner * nanosPerSecond := rfl

theorem secondOfDay_eq (instant : Instant) :
    (instant.secondOfDay : Int) = instant.seconds % 86400 :=
  Int.toNat_of_nonneg (Int.emod_nonneg _ (by decide))

/-- A leap second counts in the time gone by, is taken off it, or does neither. -/
theorem leapBetween_cases (later sooner : Instant) :
    (leapBetween later sooner = 1 ∧ sooner.secondOfDay < later.secondOfDay ∧
        ¬ sooner.Ordinary) ∨
      (leapBetween later sooner = -1 ∧ later.secondOfDay < sooner.secondOfDay ∧
        ¬ later.Ordinary) ∨
      (leapBetween later sooner = 0 ∧
        (later.secondOfDay ≤ sooner.secondOfDay ∨ sooner.Ordinary) ∧
        (sooner.secondOfDay ≤ later.secondOfDay ∨ later.Ordinary)) := by
  unfold leapBetween Ordinary
  split
  · exact Or.inl ⟨rfl, by omega⟩
  · split
    · exact Or.inr (Or.inl ⟨rfl, by omega⟩)
    · exact Or.inr (Or.inr ⟨rfl, by omega⟩)

/-- Between ordinary instants no leap second counts. -/
theorem leapBetween_of_ordinary {later sooner : Instant} (hl : later.Ordinary)
    (hs : sooner.Ordinary) : leapBetween later sooner = 0 := by
  rcases leapBetween_cases later sooner with ⟨-, -, leap⟩ | ⟨-, -, leap⟩ | ⟨none, -, -⟩
  · exact absurd hs leap
  · exact absurd hl leap
  · exact none

/-! ## The calendar range -/

/-- The range of the calendar, counted in seconds. -/
theorem inRange_iff (instant : Instant) :
    instant.inRange = true ↔
      earliest.seconds ≤ instant.seconds ∧ instant.seconds ≤ latest.seconds := by
  have first_le (number : Int) : number ≤ instant.day ↔ number * 86400 ≤ instant.seconds := by
    simp only [day, secondsPerDay]
    omega
  have le_last (number : Int) :
      instant.day ≤ number ↔ instant.seconds ≤ number * 86400 + 86399 := by
    simp only [day, secondsPerDay]
    omega
  simp only [inRange, Bool.and_eq_true, decide_eq_true_eq, first_le, le_last]
  rfl

/-- The calendar holds the instant: it lies in the calendar range, and if inside a leap second then
within one second. -/
structure Held (instant : Instant) : Prop where
  inRange : instant.inRange = true
  bound : instant.nanos < 2 * nanosPerSecond

instance (instant : Instant) : Decidable instant.Held :=
  decidable_of_iff (instant.inRange = true ∧ instant.nanos < 2 * nanosPerSecond)
    ⟨fun h => ⟨h.1, h.2⟩, fun h => ⟨h.inRange, h.bound⟩⟩

theorem held_of_ordinary {instant : Instant} (inRange : instant.inRange = true)
    (ordinary : instant.Ordinary) : instant.Held where
  inRange := inRange
  bound := by
    rw [Ordinary] at ordinary
    omega

end Instant

end SwarmChart
