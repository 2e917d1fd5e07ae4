import SwarmChart.Proofs.Series.Registrations

/-!
# What the series of registered items counts

The points of the series stand at the two edges of the window and at each registration from its
start on. They count upwards by one from the items registered before the window, and the last one
repeats the number of all items (`Series.Counts`). As a step function the series holds the number of
items registered so far, as long as the finish of the window is not reached. From there on the
finish has taken a place of its own in the count, so a registration after it is seen one place early
(`Series.counts_registrations`).

Only the instants matter and not their order, since a sorted list is known from its members
(`Series.arranged_of_perm`).
-/

set_option autoImplicit false

namespace SwarmChart.Series

/-- The number of items registered at the instant or before it. -/
def registeredBy (instants : List Instant) (t : Instant) : Nat := instants.countP (· ≤ t)

/-- The number of items registered before the instant. -/
def registeredBefore (instants : List Instant) (t : Instant) : Nat := instants.countP (· < t)

/-- The points count the items registered at the instants over the window. -/
structure Counts (instants : List Instant) (window : Window) (points : List Point) : Prop where
  ascending : (points.map Point.instant).Pairwise (· ≤ ·)
  /-- The edges of the window and the registrations from its start on, each with its own point. -/
  members : (points.map Point.instant).Perm
    (window.effectiveStart :: window.finish :: instants.filter (window.effectiveStart ≤ ·))
  length : points.length + registeredBefore instants window.effectiveStart = instants.length + 2
  first : points.head? =
    some ⟨window.effectiveStart, registeredBefore instants window.effectiveStart⟩
  rising : points.dropLast.IsChain fun before after => after.count = before.count + 1
  last : ∃ earlier instant other,
    points = earlier ++ [⟨instant, instants.length⟩, ⟨other, instants.length⟩]
  /-- Before the finish the step function is the number of items registered so far. -/
  beforeFinish : ∀ t, window.effectiveStart ≤ t → t < window.finish →
    (pointsUpTo t points).getLast?.map Point.count = some (registeredBy instants t : Int)
  /-- From the finish on it is one ahead, as long as there are items left. -/
  fromFinish : ∀ t, window.finish ≤ t →
    (pointsUpTo t points).getLast?.map Point.count =
      some ((min instants.length (registeredBy instants t + 1) : Nat) : Int)

variable {instants others : List Instant} {window : Window} {t : Instant}

/-! ## Numbered points -/

theorem map_instant_numbered (count : Nat) (instants : List Instant) :
    (numbered count instants).map Point.instant = instants := by
  induction count, instants using numbered.induct with
  | case1 => rfl
  | case2 => rfl
  | case3 count instant next later ih => rw [numbered, List.map_cons, ih]

theorem numbered_ne_nil (count : Nat) (nonempty : instants ≠ []) :
    numbered count instants ≠ [] := by
  rw [ne_eq, ← List.length_eq_zero_iff, length_numbered, List.length_eq_zero_iff]
  exact nonempty

theorem dropLast_numbered_cons_cons (count : Nat) (instant next : Instant)
    (later : List Instant) :
    (numbered count (instant :: next :: later)).dropLast =
      ⟨instant, count⟩ :: (numbered (count + 1) (next :: later)).dropLast :=
  List.dropLast_cons_of_ne_nil (numbered_ne_nil _ (List.cons_ne_nil _ _))

/-- Up to the final point every instant counts one more than the one before. -/
theorem isChain_dropLast_numbered (count : Nat) (instants : List Instant) :
    (numbered count instants).dropLast.IsChain fun before after =>
      after.count = before.count + 1 := by
  induction count, instants using numbered.induct with
  | case1 => exact .nil
  | case2 => exact .nil
  | case3 count instant next later ih =>
    cases later with
    | nil => exact .singleton _
    | cons third later =>
      rw [dropLast_numbered_cons_cons] at ih ⊢
      rw [dropLast_numbered_cons_cons]
      exact .cons_cons rfl ih

theorem head?_numbered_of_two (count : Nat) (two : 2 ≤ instants.length) :
    (numbered count instants).head? = instants.head?.map fun instant => ⟨instant, count⟩ := by
  match instants, two with
  | instant :: next :: later, _ => rfl

/-- The last two points have the same count. -/
theorem exists_numbered_eq (count : Nat) (two : 2 ≤ instants.length) :
    ∃ earlier instant other, numbered count instants =
      earlier ++ [⟨instant, (count + instants.length : Int) - 2⟩,
        ⟨other, (count + instants.length : Int) - 2⟩] := by
  induction count, instants using numbered.induct with
  | case1 => contradiction
  | case2 => contradiction
  | case3 count instant next later ih =>
    cases later with
    | nil =>
      refine ⟨[], instant, next, ?_⟩
      simp [numbered]
    | cons third later =>
      obtain ⟨earlier, last, other, points⟩ := ih (by simp)
      refine ⟨⟨instant, count⟩ :: earlier, last, other, ?_⟩
      have same : ((count + 1 : Nat) : Int) + (next :: third :: later).length - 2 =
          count + (instant :: next :: third :: later).length - 2 := by
        simp only [List.length_cons]
        omega
      rw [numbered, points, same]
      rfl

theorem pointsUpTo_numbered_of_after (count : Nat) (after : ∀ instant ∈ instants, ¬ instant ≤ t) :
    pointsUpTo t (numbered count instants) = [] := by
  apply List.filter_eq_nil_iff.2
  intro point member upTo
  have among : point.instant ∈ instants := by
    rw [← map_instant_numbered count instants]
    exact List.mem_map_of_mem member
  exact after point.instant among (of_decide_eq_true upTo)

theorem registeredBy_cons_of_le {instant : Instant} (upTo : instant ≤ t)
    (later : List Instant) : registeredBy (instant :: later) t = registeredBy later t + 1 :=
  List.countP_cons_of_pos (decide_eq_true upTo)

theorem registeredBy_of_after (after : ∀ instant ∈ instants, ¬ instant ≤ t) :
    registeredBy instants t = 0 := by
  rw [registeredBy, List.countP_eq_zero]
  intro instant among upTo
  exact after instant among (of_decide_eq_true upTo)

/-- Instants in ascending order none of which is reached before the first one. -/
theorem forall_after {first : Instant} (ascending : (first :: instants).Pairwise (· ≤ ·))
    (after : ¬ first ≤ t) : ∀ instant ∈ first :: instants, ¬ instant ≤ t := by
  intro instant among upTo
  rcases List.mem_cons.1 among with rfl | behind
  · exact after upTo
  · exact after (Std.le_trans ((List.pairwise_cons.1 ascending).1 instant behind) upTo)

theorem le_of_reached {first : Instant} (ascending : (first :: instants).Pairwise (· ≤ ·))
    (reached : 0 < registeredBy (first :: instants) t) : first ≤ t := by
  by_contra after
  rw [registeredBy_of_after (forall_after ascending after)] at reached
  contradiction

/-- The last point up to an instant has the number of the instants so far, and no more than the
final point. -/
theorem getLast?_pointsUpTo_numbered (count : Nat) (ascending : instants.Pairwise (· ≤ ·))
    (reached : 0 < registeredBy instants t) :
    (pointsUpTo t (numbered count instants)).getLast?.map Point.count =
      some (min ((count + registeredBy instants t : Int) - 1)
        ((count + instants.length : Int) - 2)) := by
  induction count, instants using numbered.induct with
  | case1 => contradiction
  | case2 count last =>
    have upTo := le_of_reached ascending reached
    have alone : pointsUpTo t (numbered count [last]) = numbered count [last] :=
      pointsUpTo_cons_of_le upTo []
    have none : registeredBy [] t = 0 := rfl
    rw [alone, registeredBy_cons_of_le upTo, none, numbered, List.getLast?_singleton,
      Option.map_some, List.length_singleton]
    refine congrArg some ?_
    dsimp only
    omega
  | case3 count instant next later ih =>
    have upTo := le_of_reached ascending reached
    have rest := (List.pairwise_cons.1 ascending).2
    rw [numbered, pointsUpTo_cons_of_le upTo, registeredBy_cons_of_le upTo, List.length_cons]
    by_cases more : next ≤ t
    · have others : 0 < registeredBy (next :: later) t := by
        rw [registeredBy_cons_of_le more]
        exact Nat.succ_pos _
      rw [List.getLast?_cons, Option.map_some]
      cases found : (pointsUpTo t (numbered (count + 1) (next :: later))).getLast? with
      | none =>
        have last := ih rest others
        rw [found] at last
        cases last
      | some point =>
        have last := ih rest others
        rw [found, Option.map_some, Option.some.injEq] at last
        rw [Option.getD_some, last]
        refine congrArg some ?_
        omega
    -- Nothing behind the first instant is reached, and the final point is still to come.
    · have after := forall_after rest more
      rw [pointsUpTo_numbered_of_after _ after, registeredBy_of_after after,
        List.getLast?_singleton, Option.map_some, List.length_cons]
      refine congrArg some ?_
      dsimp only
      omega

/-! ## The instants in order -/

/-- The order of the registrations does not matter. -/
theorem arranged_of_perm (perm : others.Perm instants) (window : Window) :
    arranged others window = arranged instants window := by
  refine List.Perm.eq_of_pairwise ?_ (pairwise_arranged others window)
    (pairwise_arranged instants window) ?_
  · intro first second _ _ h₁ h₂
    exact Std.le_antisymm h₁ h₂
  · exact (arranged_perm others window).trans
      ((perm.append_right _).trans (arranged_perm instants window).symm)

/-- The count of items does not depend on the order in which they are listed. -/
theorem registrations_of_perm (perm : others.Perm instants) (window : Window) :
    registrations others window = registrations instants window := by
  rw [registrations_eq, registrations_eq, arranged_of_perm perm]

theorem countP_arranged (p : Instant → Bool) (instants : List Instant) (window : Window) :
    (arranged instants window).countP p =
      instants.countP p + (p window.effectiveStart).toNat + (p window.finish).toNat := by
  rw [(arranged_perm instants window).countP_eq p, List.countP_append, countP_cons_toNat,
    countP_cons_toNat, List.countP_nil]
  omega

section Split

variable {before after : List Instant} (split : arranged instants window = before ++ after)
  (early : ∀ instant ∈ before, instant < window.effectiveStart)
  (late : ∀ instant ∈ after, window.effectiveStart ≤ instant)

include split early late

/-- In front of the start stand the items registered before it. -/
theorem length_of_split : before.length = registeredBefore instants window.effectiveStart := by
  have counted := countP_arranged (· < window.effectiveStart) instants window
  have all : before.countP (fun instant => decide (instant < window.effectiveStart)) =
      before.length := by
    rw [List.countP_eq_length]
    intro instant among
    exact decide_eq_true (early instant among)
  have none : after.countP (fun instant => decide (instant < window.effectiveStart)) = 0 := by
    rw [List.countP_eq_zero]
    intro instant among before
    exact Std.not_lt.2 (late instant among) (of_decide_eq_true before)
  rw [split, List.countP_append, all, none, decide_eq_false Std.lt_irrefl,
    decide_eq_false (Std.not_lt.2 window.effectiveStart_le_finish)] at counted
  exact counted

/-- From the start on stand the two edges and the items registered since. -/
theorem perm_of_split : after.Perm
    (window.effectiveStart :: window.finish :: instants.filter (window.effectiveStart ≤ ·)) := by
  have kept := (arranged_perm instants window).filter fun instant =>
    decide (window.effectiveStart ≤ instant)
  have none : before.filter (fun instant => decide (window.effectiveStart ≤ instant)) = [] := by
    rw [List.filter_eq_nil_iff]
    intro instant among after
    exact Std.not_le.2 (early instant among) (of_decide_eq_true after)
  have all : after.filter (fun instant => decide (window.effectiveStart ≤ instant)) = after := by
    rw [List.filter_eq_self]
    intro instant among
    exact decide_eq_true (late instant among)
  have edges : [window.effectiveStart, window.finish].filter
      (fun instant => decide (window.effectiveStart ≤ instant)) =
        [window.effectiveStart, window.finish] := by
    rw [List.filter_eq_self]
    simp [Std.le_refl, window.effectiveStart_le_finish]
  rw [split, List.filter_append, none, all, List.filter_append, edges] at kept
  exact kept.trans List.perm_append_comm

omit late in
/-- What is passed at an instant of the window is the items registered by then, and the edges. -/
theorem registeredBy_of_split (begun : window.effectiveStart ≤ t) :
    before.length + registeredBy after t =
      registeredBy instants t + 1 + (decide (window.finish ≤ t)).toNat := by
  have counted := countP_arranged (· ≤ t) instants window
  have all : before.countP (fun instant => decide (instant ≤ t)) = before.length := by
    rw [List.countP_eq_length]
    intro instant among
    exact decide_eq_true (Std.le_trans (Std.le_of_lt (early instant among)) begun)
  rw [split, List.countP_append, all, decide_eq_true begun] at counted
  exact counted

end Split

/-! ## The series -/

/-- The count held at an instant from the start of the window on. The finish is counted too, but
never beyond the number of all items. -/
theorem getLast?_pointsUpTo_registrations (begun : window.effectiveStart ≤ t) :
    (pointsUpTo t (registrations instants window)).getLast?.map Point.count =
      some ((min instants.length
        (registeredBy instants t + (decide (window.finish ≤ t)).toNat) : Nat) : Int) := by
  -- The points are numbered from the instants before the window on, so those count as passed.
  obtain ⟨before, after, split, early, late, -, points⟩ := exists_registrations_eq instants window
  have ascending := pairwise_arranged instants window
  have length := (arranged_perm instants window).length_eq
  have sum := registeredBy_of_split split early begun
  have few : registeredBy instants t ≤ instants.length := List.countP_le_length
  rw [split] at ascending length
  have reached : 0 < registeredBy after t := by
    have start : window.effectiveStart ∈ after :=
      (perm_of_split split early late).mem_iff.2 List.mem_cons_self
    exact List.countP_pos_iff.2 ⟨window.effectiveStart, start, decide_eq_true begun⟩
  rw [points, getLast?_pointsUpTo_numbered _ (List.pairwise_append.1 ascending).2.1 reached]
  refine congrArg some ?_
  simp only [List.length_append, List.length_cons, List.length_nil] at length
  omega

/-- The series of registered items counts what was registered, in whatever order the registrations
are given. -/
theorem counts_registrations (instants : List Instant) (window : Window) :
    Counts instants window (registrations instants window) ∧
      ∀ others : List Instant, others.Perm instants →
        registrations others window = registrations instants window := by
  -- The points stand at what is left once the registrations before the window are split off, and
  -- are numbered on from those.
  obtain ⟨before, after, split, early, late, two, points⟩ :=
    exists_registrations_eq instants window
  have ascending := pairwise_arranged instants window
  have length := (arranged_perm instants window).length_eq
  have seed := length_of_split split early late
  have members := perm_of_split split early late
  rw [split] at ascending length
  simp only [List.length_append, List.length_cons, List.length_nil] at length
  have ascendingAfter := (List.pairwise_append.1 ascending).2.1
  have counts : Counts instants window (registrations instants window) := {
    ascending := by
      rw [points, map_instant_numbered]
      exact ascendingAfter
    members := by
      rw [points, map_instant_numbered]
      exact members
    length := by
      rw [points, length_numbered, ← seed]
      omega
    first := by
      have first := head?_of_least ascendingAfter (members.mem_iff.2 List.mem_cons_self) late
      rw [points, ← seed, head?_numbered_of_two _ two, first]
      rfl
    rising := by
      rw [points]
      exact isChain_dropLast_numbered _ _
    last := by
      obtain ⟨earlier, instant, other, last⟩ := exists_numbered_eq before.length two
      have number : (before.length + after.length : Int) - 2 = instants.length := by omega
      rw [number] at last
      exact ⟨earlier, instant, other, points.trans last⟩
    beforeFinish := by
      intro t begun before
      have few : registeredBy instants t ≤ instants.length := List.countP_le_length
      rw [getLast?_pointsUpTo_registrations begun, decide_eq_false (Std.not_le.2 before),
        Bool.toNat_false, Nat.add_zero, Nat.min_eq_right few]
    fromFinish := by
      intro t reached
      have begun := Std.le_trans window.effectiveStart_le_finish reached
      rw [getLast?_pointsUpTo_registrations begun, decide_eq_true reached, Bool.toNat_true] }
  exact ⟨counts, fun others perm => registrations_of_perm perm window⟩

/-- Three registrations against the hour before noon: the day before, half an hour before noon and
a minute after it. -/
theorem counts_registrations_around_noon :
    (pointsUpTo ⟨1654862400, 0⟩ (registrations
        [⟨1654862460, 0⟩, ⟨1654776000, 0⟩, ⟨1654860600, 0⟩]
        (.trailing ⟨1654862400, 0⟩ ⟨3600000000000⟩))).getLast?.map Point.count = some 3 := by
  have counts := (counts_registrations [⟨1654862460, 0⟩, ⟨1654776000, 0⟩, ⟨1654860600, 0⟩]
    (.trailing ⟨1654862400, 0⟩ ⟨3600000000000⟩)).1
  exact (counts.fromFinish ⟨1654862400, 0⟩ (by decide)).trans (by decide)

end SwarmChart.Series
