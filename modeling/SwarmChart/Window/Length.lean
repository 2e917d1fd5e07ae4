import SwarmChart.Span
import SwarmChart.Decimal.Numeral

/-!
# The length of a window

Users give the length of a window as a number of seconds. `spanOfSeconds` rounds it to whole
milliseconds, a half going away from zero, and holds it within the limits of a span. A length that
is not finite is refused, and that is the only refusal.
-/

set_option autoImplicit false

namespace SwarmChart.Window

/-- The length of a window that was refused. -/
structure InvalidLength where
  seconds : Float

/-- The text of the refusal. -/
def InvalidLength.message (refused : InvalidLength) : String :=
  "Invalid window duration: " ++ Decimal.nameOfNonFinite refused.seconds

/-- The span of a number of milliseconds that may have a fraction or be beyond all limits. -/
def spanOfMillis (millis : Float) : Span :=
  match Decimal.Binary.ofFloat millis with
  | .finite negative significand exponent =>
    let magnitude : Int := Decimal.Binary.roundMagnitude significand exponent
    Span.ofMillis (if negative then -magnitude else magnitude)
  | .infinite negative => if negative then Span.shortest else Span.longest
  | .notANumber => Span.zero

/-- The span of a finite number of seconds. -/
def spanOfSeconds (seconds : Float) : Except InvalidLength Span :=
  if (Decimal.Binary.ofFloat seconds).isFinite then .ok (spanOfMillis (seconds * 1000))
  else .error ⟨seconds⟩

end SwarmChart.Window
