import Mathlib.Data.List.Chain
import SwarmChart.Proofs.Series.Edges
import SwarmChart.Series.Registrations

/-!
# The series of registered items

The instants in ascending order fall apart into those before the start of the window and the others,
and the series numbers the others from the number of the first ones on
(`Series.exists_registrations_eq`). So it begins at the start of the window, stays or goes up by one
from point to point, and comes to the number of all items (`Series.registered_registrations`).
-/

set_option autoImplicit false

namespace SwarmChart.Series

variable {instants : List Instant} {window : Window}

/-- The points of the instants, which count from `count` on. The last one repeats the count of the
point before it. -/
def numbered : Nat → List Instant → List Point
  | _, [] => []
  | count, [last] => [⟨last, (count : Int) - 1⟩]
  | count, instant :: next :: later => ⟨instant, count⟩ :: numbered (count + 1) (next :: later)

/-- The shape of a series of that many registered items over the window. -/
structure Registered (number : Nat) (window : Window) (points : List Point) : Prop where
  length : 2 ≤ points.length
  begins : points.head?.map Point.instant = some window.effectiveStart
  steady : points.IsChain fun before after =>
    after.count = before.count ∨ after.count = before.count + 1
  complete : points.getLast?.map Point.count = some (number : Int)

/-! ## Numbered points -/

theorem length_numbered (count : Nat) (instants : List Instant) :
    (numbered count instants).length = instants.length := by
  induction count, instants using numbered.induct with
  | case1 => rfl
  | case2 => rfl
  | case3 count instant next later ih => exact congrArg Nat.succ ih

theorem head?_numbered (count : Nat) (instants : List Instant) :
    (numbered count instants).head?.map Point.instant = instants.head? := by
  cases instants with
  | nil => rfl
  | cons instant later => cases later <;> rfl

/-- Each point counts as many as the one before it, or one more. -/
theorem isChain_numbered (count : Nat) (instants : List Instant) :
    (numbered count instants).IsChain fun before after =>
      after.count = before.count ∨ after.count = before.count + 1 := by
  induction count, instants using numbered.induct with
  | case1 => exact .nil
  | case2 count last => exact .singleton _
  | case3 count instant next later ih =>
    rw [numbered]
    cases later with
    | nil => exact .cons_cons (Or.inl (by dsimp only; omega)) ih
    | cons third later => exact .cons_cons (Or.inr (by dsimp only; omega)) ih

/-- The final point leaves out the two edges of the window. -/
theorem getLast?_count_numbered (count : Nat) (nonempty : instants ≠ []) :
    (numbered count instants).getLast?.map Point.count =
      some ((count + instants.length : Int) - 2) := by
  induction count, instants using numbered.induct with
  | case1 => contradiction
  | case2 count last =>
    have same : (count : Int) - 1 = count + (1 : Nat) - 2 := by omega
    rw [numbered, List.getLast?_singleton, Option.map_some, List.length_singleton, same]
  | case3 count instant next later ih =>
    have points : numbered (count + 1) (next :: later) ≠ [] := by
      rw [ne_eq, ← List.length_eq_zero_iff, length_numbered]
      exact Nat.succ_ne_zero _
    have same : ((count + 1 : Nat) : Int) + (next :: later).length - 2 =
        count + (instant :: next :: later).length - 2 := by
      simp only [List.length_cons]
      omega
    rw [numbered, List.getLast?_cons_of_ne_nil points, ih (List.cons_ne_nil _ _), same]

/-! ## The instants in order -/

theorem arranged_perm (instants : List Instant) (window : Window) :
    (arranged instants window).Perm (instants ++ [window.effectiveStart, window.finish]) :=
  List.mergeSort_perm _ _

theorem pairwise_arranged (instants : List Instant) (window : Window) :
    (arranged instants window).Pairwise (· ≤ ·) := by
  have sorted : (arranged instants window).Pairwise fun a b => decide (a ≤ b) = true := by
    refine List.pairwise_mergeSort ?_ ?_ _
    · intro first second third h₁ h₂
      rw [decide_eq_true_eq] at *
      exact Std.le_trans h₁ h₂
    · intro first second
      rw [Bool.or_eq_true, decide_eq_true_eq, decide_eq_true_eq]
      exact Std.le_total
  simpa only [decide_eq_true_eq] using sorted

/-- Instants in ascending order fall apart at any instant. -/
theorem exists_split (ascending : instants.Pairwise (· ≤ ·)) (t : Instant) :
    ∃ before after, instants = before ++ after ∧ (∀ instant ∈ before, instant < t) ∧
      ∀ instant ∈ after, t ≤ instant := by
  induction instants with
  | nil => exact ⟨[], [], rfl, by simp, by simp⟩
  | cons first later ih =>
    obtain ⟨least, ascendingLater⟩ := List.pairwise_cons.1 ascending
    by_cases late : t ≤ first
    · refine ⟨[], first :: later, rfl, by simp, ?_⟩
      rw [List.forall_mem_cons]
      exact ⟨late, fun instant among => Std.le_trans late (least instant among)⟩
    · obtain ⟨before, after, rfl, early, others⟩ := ih ascendingLater
      refine ⟨first :: before, after, rfl, ?_, others⟩
      rw [List.forall_mem_cons]
      exact ⟨Std.not_le.1 late, early⟩

theorem head?_of_least {t : Instant} (ascending : instants.Pairwise (· ≤ ·))
    (present : t ∈ instants) (least : ∀ instant ∈ instants, t ≤ instant) :
    instants.head? = some t := by
  cases instants with
  | nil => contradiction
  | cons first later =>
    have first_le : first ≤ t := by
      rcases List.mem_cons.1 present with same | behind
      · exact same ▸ Std.le_refl _
      · exact (List.pairwise_cons.1 ascending).1 t behind
    rw [List.head?_cons, Std.le_antisymm first_le (least first List.mem_cons_self)]

/-! ## The series -/

/-- The point of an instant with its place, if the series of that many instants has it. -/
def placed (window : Window) (total : Nat) : Instant × Nat → Option Point
  | (instant, index) =>
    if index + 1 = total then some ⟨instant, (index : Int) - 1⟩
    else if window.effectiveStart ≤ instant then some ⟨instant, index⟩
    else none

theorem registrations_eq (instants : List Instant) (window : Window) :
    registrations instants window =
      (arranged instants window).zipIdx.filterMap
        (placed window (arranged instants window).length) := rfl

theorem filterMap_placed_of_late {total index : Nat} (ends : index + instants.length = total)
    (late : ∀ instant ∈ instants, window.effectiveStart ≤ instant) :
    (instants.zipIdx index).filterMap (placed window total) = numbered index instants := by
  induction index, instants using numbered.induct with
  | case1 => rfl
  | case2 index last =>
    have isLast : index + 1 = total := ends
    simp [numbered, placed, isLast]
  | case3 index instant next later ih =>
    obtain ⟨own, others⟩ := List.forall_mem_cons.1 late
    rw [List.length_cons, List.length_cons] at ends
    have more : index + 1 ≠ total := by omega
    have here : placed window total (instant, index) = some ⟨instant, index⟩ := by
      rw [placed, if_neg more, if_pos own]
    have rest := ih (by rw [List.length_cons]; omega) others
    rw [List.zipIdx_cons, List.filterMap_cons_some here, rest, numbered]

theorem filterMap_placed_of_early {total index : Nat} (more : index + instants.length < total)
    (early : ∀ instant ∈ instants, instant < window.effectiveStart) :
    (instants.zipIdx index).filterMap (placed window total) = [] := by
  induction instants generalizing index with
  | nil => rfl
  | cons instant later ih =>
    obtain ⟨own, others⟩ := List.forall_mem_cons.1 early
    rw [List.length_cons] at more
    have notLast : index + 1 ≠ total := by omega
    have here : placed window total (instant, index) = none := by
      rw [placed, if_neg notLast, if_neg (Std.not_le.2 own)]
    rw [List.zipIdx_cons, List.filterMap_cons_none here]
    exact ih (by omega) others

/-- The instants from the start of the window on are numbered from the number of those before
it. -/
theorem exists_registrations_eq (instants : List Instant) (window : Window) :
    ∃ before after, arranged instants window = before ++ after ∧
      (∀ instant ∈ before, instant < window.effectiveStart) ∧
      (∀ instant ∈ after, window.effectiveStart ≤ instant) ∧ 2 ≤ after.length ∧
      registrations instants window = numbered before.length after := by
  obtain ⟨before, after, split, early, late⟩ :=
    exists_split (pairwise_arranged instants window) window.effectiveStart
  -- The two edges of the window are not before its start.
  have edges : 2 ≤ after.length := by
    have counted := (arranged_perm instants window).countP_eq
      fun instant => decide (window.effectiveStart ≤ instant)
    have none : before.countP (fun instant => decide (window.effectiveStart ≤ instant)) = 0 := by
      rw [List.countP_eq_zero]
      intro instant among
      rw [decide_eq_true_eq]
      exact Std.not_le.2 (early instant among)
    have both : [window.effectiveStart, window.finish].countP
        (fun instant => decide (window.effectiveStart ≤ instant)) = 2 := by
      rw [List.countP_eq_length.2]
      · rfl
      · simp [Std.le_refl, window.effectiveStart_le_finish]
    rw [split, List.countP_append, List.countP_append, none, both] at counted
    have most := after.countP_le_length
      (p := fun instant => decide (window.effectiveStart ≤ instant))
    omega
  refine ⟨before, after, split, early, late, edges, ?_⟩
  rw [registrations_eq, split, List.zipIdx_append, List.filterMap_append,
    filterMap_placed_of_early _ early, filterMap_placed_of_late _ late, List.nil_append,
    Nat.zero_add]
  · rw [List.length_append]
    omega
  · rw [List.length_append]
    omega

/-- The count of items has the shape that the charts rely on, over every window. -/
theorem registered_registrations (instants : List Instant) (window : Window) :
    Registered instants.length window (registrations instants window) := by
  obtain ⟨before, after, split, early, late, edges, points⟩ :=
    exists_registrations_eq instants window
  have length := (arranged_perm instants window).length_eq
  rw [split, List.length_append, List.length_append] at length
  have present : window.effectiveStart ∈ after := by
    have among : window.effectiveStart ∈ before ++ after := by
      rw [← split, (arranged_perm instants window).mem_iff]
      exact List.mem_append_right _ List.mem_cons_self
    rcases List.mem_append.1 among with inFront | behind
    · exact absurd (early _ inFront) Std.lt_irrefl
    · exact behind
  have ascending := pairwise_arranged instants window
  rw [split] at ascending
  have first := head?_of_least (List.pairwise_append.1 ascending).2.1 present late
  have nonempty : after ≠ [] := List.ne_nil_of_length_pos (by omega)
  rw [points]
  refine ⟨?_, ?_, isChain_numbered _ _, ?_⟩
  · rw [length_numbered]
    exact edges
  · rw [head?_numbered, first]
  -- The last number is two less than that of all instants, two of which are the window's edges.
  · rw [getLast?_count_numbered _ nonempty]
    have same : (before.length : Int) + after.length - 2 = instants.length := by
      simp only [List.length_cons, List.length_nil] at length
      omega
    rw [same]

end SwarmChart.Series
