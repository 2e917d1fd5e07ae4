import SwarmChart.Proofs.Decimal.Finite
import SwarmChart.Proofs.Window.Start
import SwarmChart.Window.Length

/-!
# Lengths and starts at their limits

Four limits meet in a trailing window: the two ends of the counter of milliseconds and the two ends
of the calendar. A number of milliseconds is never wrapped by the counter, so its span is the number
held between the limits (`Span.ofMillis_eq`). A start is never wrapped by the calendar: for an
ordinary present it is the instant one span before the present, held within the calendar range
(`Window.onLine_start_of_ordinary`). Holding keeps the order, and a longer window never starts later
(`Window.start_saturates`).
-/

set_option autoImplicit false

namespace SwarmChart

/-! ## Spans of milliseconds -/

namespace Span

variable {millis fewer more : Int}

/-- A number that is sent through the counter comes out as it was. -/
theorem toInt_counter (above : -counterEnd < millis) (below : millis < counterEnd) :
    (Int64.ofIntClamp millis).toInt = millis := by
  simp only [counterEnd] at above below
  apply Int64.toInt_ofIntClamp
  · rw [Int64.toInt_minValue]
    omega
  · rw [Int64.toInt_maxValue]
    omega

/-- Every number that is sent through the counter has a span. -/
theorem ofCounter?_counter (above : -counterEnd < millis) (below : millis < counterEnd) :
    ofCounter? (Int64.ofIntClamp millis) = some ⟨millis * 1000000⟩ := by
  have counter := toInt_counter above below
  have withSpan : ¬ millis < -millisLimit := by
    simp only [counterEnd, millisLimit] at above ⊢
    omega
  rw [ofCounter?, counter, if_neg withSpan]

/-- The span of a number of milliseconds is the number held between the limits. -/
theorem ofMillis_eq (millis : Int) :
    ofMillis millis = ⟨max (-millisLimit) (min millisLimit millis) * 1000000⟩ := by
  have ends : counterEnd = millisLimit + 1 := rfl
  have sign : 0 < millisLimit := by decide
  unfold ofMillis
  split
  · next beyond =>
    have held : max (-millisLimit) (min millisLimit millis) = millisLimit := by omega
    rw [held, longest]
  split
  · next before =>
    have held : max (-millisLimit) (min millisLimit millis) = -millisLimit := by omega
    rw [held, shortest]
  · next below above =>
    have held : max (-millisLimit) (min millisLimit millis) = millis := by omega
    rw [ofCounter?_counter (Int.not_le.1 above) (Int.not_le.1 below), held, Option.getD_some]

/-- More milliseconds give no shorter span, also at the limits. -/
theorem ofMillis_mono (le : fewer ≤ more) : ofMillis fewer ≤ ofMillis more := by
  rw [ofMillis_eq, ofMillis_eq, Span.le_iff]
  dsimp only
  omega

end Span

/-! ## Starts -/

theorem Instant.earlier_mono {sooner later : Instant} (le : sooner ≤ later) (limit : Instant) :
    sooner.earlier limit ≤ later.earlier limit := by
  unfold earlier
  split
  · next kept =>
    split
    · exact le
    · exact kept
  · next cut =>
    have beyond : ¬ later ≤ limit := fun within => cut (Std.le_trans le within)
    rw [if_neg beyond]
    exact Std.le_refl _

namespace Window

/-- The whole number of milliseconds closest to a number of them, a half going away from zero. What
is not finite has none. -/
def wholeMillis? (millis : Float) : Option Int :=
  match Decimal.Binary.ofFloat millis with
  | .finite negative significand exponent =>
    let magnitude : Int := Decimal.Binary.roundMagnitude significand exponent
    some (if negative then -magnitude else magnitude)
  | _ => none

/-- The instant lies one span before the present, if the calendar holds that instant, and else at
the end of the calendar to which the span leads. -/
structure ReachesBack (now : Instant) (span : Span) (start : Instant) : Prop where
  ordinary : start.Ordinary
  within : Instant.earliest.onLine ≤ now.onLine - span.nanos →
    now.onLine - span.nanos ≤ Instant.latest.onLine → start.onLine = now.onLine - span.nanos
  beyond : ¬ (Instant.earliest.onLine ≤ now.onLine - span.nanos ∧
      now.onLine - span.nanos ≤ Instant.latest.onLine) →
    (Span.zero < span ∧ start = Instant.earliest) ∨ (span < Span.zero ∧ start = Instant.latest)

/-- The span of a number of seconds, from the whole number of milliseconds that it comes to. -/
theorem spanOfSeconds_of_wholeMillis? {seconds : Float} {millis : Int}
    (finite : seconds.isFinite = true) (whole : wholeMillis? (seconds * 1000) = some millis) :
    spanOfSeconds seconds = .ok (Span.ofMillis millis) := by
  rw [spanOfSeconds, Decimal.Binary.isFinite_ofFloat, if_pos finite, spanOfMillis]
  unfold wholeMillis? at whole
  split at whole
  · next parts =>
    rw [parts, ← Option.some.inj whole]
  · cases whole

/-- The seconds of an instant of the line lie in the calendar range if the instant does. -/
theorem seconds_ofLine_within_iff (nanos : Int) :
    Instant.earliest.seconds ≤ (Instant.ofLine nanos).seconds ∧
        (Instant.ofLine nanos).seconds ≤ Instant.latest.seconds ↔
      Instant.earliest.onLine ≤ nanos ∧ nanos ≤ Instant.latest.onLine := by
  simp only [Instant.ofLine, Instant.onLine, Instant.earliest, Instant.latest, nanosPerSecond]
  omega

section Ordinary

variable {now : Instant} (inRange : now.inRange = true) (ordinary : now.Ordinary)

include inRange ordinary

theorem onLine_within :
    Instant.earliest.onLine ≤ now.onLine ∧ now.onLine ≤ Instant.latest.onLine := by
  obtain ⟨after, before⟩ := (Instant.inRange_iff now).1 inRange
  simp only [Instant.Ordinary, Instant.onLine, Instant.earliest, Instant.latest,
    nanosPerSecond] at *
  omega

/-- The start is the span before the present, or the end of the calendar that the span would pass.
-/
theorem start_reachesBack (span : Span) : ReachesBack now span (trailing now span).start := by
  have present := onLine_within inRange ordinary
  have moved : now.advance (-span) = Instant.ofLine (now.onLine - span.nanos) :=
    Instant.advance_of_ordinary ordinary (-span)
  have start := start_trailing now span
  simp only [moved, seconds_ofLine_within_iff] at start
  split at start
  · next within =>
    rw [start]
    exact {
      ordinary := Instant.ofLine_ordinary _
      within := fun _ _ => Instant.onLine_ofLine _
      beyond := fun outside => absurd within outside }
  -- The sign of the span tells which end of the calendar it would pass.
  · next outside =>
    split at start
    · next positive =>
      rw [start]
      exact {
        ordinary := by decide
        within := fun after before => absurd ⟨after, before⟩ outside
        beyond := fun _ => Or.inl ⟨positive, rfl⟩ }
    · next notPositive =>
      have negative : span.nanos < 0 := by omega
      rw [start]
      exact {
        ordinary := by decide
        within := fun after before => absurd ⟨after, before⟩ outside
        beyond := fun _ => Or.inr ⟨negative, rfl⟩ }

/-- On the line a start is held between the two ends of the calendar. -/
theorem onLine_start_of_ordinary (span : Span) :
    (trailing now span).start.onLine =
      max Instant.earliest.onLine (min Instant.latest.onLine (now.onLine - span.nanos)) := by
  have present := onLine_within inRange ordinary
  have reaches := start_reachesBack inRange ordinary span
  by_cases within : Instant.earliest.onLine ≤ now.onLine - span.nanos ∧
      now.onLine - span.nanos ≤ Instant.latest.onLine
  · rw [reaches.within within.1 within.2]
    omega
  · rcases reaches.beyond within with ⟨positive, start⟩ | ⟨negative, start⟩
    · have length : 0 < span.nanos := positive
      rw [start]
      omega
    · have length : span.nanos < 0 := negative
      rw [start]
      omega

/-- A longer span starts no later. -/
theorem start_antitone {shorter longer : Span} (le : shorter ≤ longer) :
    (trailing now longer).start ≤ (trailing now shorter).start := by
  have long := start_reachesBack inRange ordinary longer
  have short := start_reachesBack inRange ordinary shorter
  rw [Instant.le_iff_onLine_le long.ordinary short.ordinary,
    onLine_start_of_ordinary inRange ordinary, onLine_start_of_ordinary inRange ordinary]
  rw [Span.le_iff] at le
  omega

/-- The longer of two windows never begins later, for counting either. -/
theorem effectiveStart_antitone {shorter longer : Span} (le : shorter ≤ longer) :
    (trailing now longer).effectiveStart ≤ (trailing now shorter).effectiveStart :=
  Instant.earlier_mono (start_antitone inRange ordinary le) now

/-- The span of a number of seconds is that of the whole number of milliseconds which it comes to.
That span is the number held between the limits; what reaches the counter passes through it
unchanged, and always has a span. The start of a trailing window lies exactly its span before an
ordinary present, or at the end of the calendar that it would pass. So more milliseconds never lead
to a later start. -/
theorem start_saturates :
    (∀ seconds millis, seconds.isFinite = true → wholeMillis? (seconds * 1000) = some millis →
      spanOfSeconds seconds = .ok (.ofMillis millis)) ∧
      (∀ millis, Span.ofMillis millis =
          ⟨max (-Span.millisLimit) (min Span.millisLimit millis) * 1000000⟩ ∧
        (¬ Span.counterEnd ≤ millis → ¬ millis ≤ -Span.counterEnd →
          (Int64.ofIntClamp millis).toInt = millis ∧
            (Span.ofCounter? (Int64.ofIntClamp millis)).isSome = true)) ∧
      (∀ span, ReachesBack now span (trailing now span).start) ∧
      ∀ fewer more, fewer ≤ more →
        (trailing now (.ofMillis more)).start ≤ (trailing now (.ofMillis fewer)).start ∧
          (trailing now (.ofMillis more)).effectiveStart ≤
            (trailing now (.ofMillis fewer)).effectiveStart := by
  refine ⟨?_, ?_, ?_, ?_⟩
  · intro seconds millis finite whole
    exact spanOfSeconds_of_wholeMillis? finite whole
  · intro millis
    refine ⟨Span.ofMillis_eq millis, ?_⟩
    intro below above
    have below := Int.not_le.1 below
    have above := Int.not_le.1 above
    refine ⟨Span.toInt_counter above below, ?_⟩
    rw [Span.ofCounter?_counter above below]
    rfl
  · exact start_reachesBack inRange ordinary
  · intro fewer more le
    have spans := Span.ofMillis_mono le
    exact ⟨start_antitone inRange ordinary spans, effectiveStart_antitone inRange ordinary spans⟩

end Ordinary

/-- An hour before noon, the longest span before noon, and the two numbers of milliseconds on either
side of where the counter ends. -/
theorem start_saturates_before_noon :
    spanOfSeconds 3600 = .ok ⟨3600000000000⟩ ∧
      (trailing ⟨1654862400, 0⟩ Span.longest).start = Instant.earliest ∧
      (trailing ⟨1654862400, 0⟩ (.ofMillis 9223372036854775808)).start ≤
        (trailing ⟨1654862400, 0⟩ (.ofMillis 9223372036854775807)).start := by
  obtain ⟨lengths, held, reach, order⟩ :=
    start_saturates (by decide : (⟨1654862400, 0⟩ : Instant).inRange = true) (by decide)
  refine ⟨?_, ?_, ?_⟩
  · rw [lengths 3600 3600000 (by decide) (by decide), (held 3600000).1]
    rfl
  · rcases (reach Span.longest).beyond (by decide) with ⟨-, start⟩ | ⟨negative, -⟩
    · exact start
    · exact absurd negative (by decide)
  · exact (order 9223372036854775807 9223372036854775808 (by decide)).1

end Window

end SwarmChart
