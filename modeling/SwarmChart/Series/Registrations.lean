import SwarmChart.Window
import SwarmChart.Series.Replay

/-!
# The count of registered items

`registrations` counts the items registered over a window. The instants of all registrations and
the two edges of the window are put in ascending order. Each instant from the start of the window
on gives a point that counts the instants before it; the last one repeats the count of the point
before it.
-/

set_option autoImplicit false

namespace SwarmChart.Series

/-- All instants that matter for a window, in ascending order. -/
def arranged (instants : List Instant) (window : Window) : List Instant :=
  (instants ++ [window.effectiveStart, window.finish]).mergeSort (fun a b => a ≤ b)

/-- The series of the number of items that were registered at the given instants. -/
def registrations (instants : List Instant) (window : Window) : List Point :=
  let all := arranged instants window
  all.zipIdx.filterMap fun (instant, index) =>
    -- One less than its place, which is the count of the point before it.
    if index + 1 = all.length then some ⟨instant, (index : Int) - 1⟩
    else if window.effectiveStart ≤ instant then some ⟨instant, index⟩
    else none

end SwarmChart.Series
