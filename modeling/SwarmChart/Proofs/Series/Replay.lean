import SwarmChart.Proofs.Instant.Line
import SwarmChart.Series.Replay

/-!
# What replaying adds up

The count of every point of a replayed series is the seed and the changes that the events up to it
make, the first event left out (`Series.exists_mem_replay_iff`). Where the events ascend in time,
the last point up to an instant has the seed and the changes of the events up to that instant
(`Series.getLast?_pointsUpTo`).
-/

set_option autoImplicit false

namespace SwarmChart.Series

/-- The change that a list of events makes as a whole. -/
def total : List Event → Int
  | [] => 0
  | event :: later => event.tag.delta + total later

@[simp]
theorem total_nil : total [] = 0 := rfl

@[simp]
theorem total_cons (event : Event) (later : List Event) :
    total (event :: later) = event.tag.delta + total later := rfl

@[simp]
theorem total_append (before later : List Event) :
    total (before ++ later) = total before + total later := by
  induction before with
  | nil => simp
  | cons event before ih =>
    rw [List.cons_append, total_cons, total_cons, ih]
    omega

theorem total_perm {before later : List Event} (perm : before.Perm later) :
    total before = total later := by
  induction perm with
  | nil => rfl
  | cons event _ ih => rw [total_cons, total_cons, ih]
  | swap first second later =>
    simp only [total_cons]
    omega
  | trans _ _ ih₁ ih₂ => exact ih₁.trans ih₂

/-! ## Replaying -/

variable {seed : Int} {first : Event} {later : List Event}

/-- Past its first point a replay is a replay of the rest, from the count that it has moved to. -/
theorem replay_cons_cons (seed : Int) (first second : Event) (later : List Event) :
    replay seed (first :: second :: later) =
      ⟨first.instant, seed⟩ :: replay (seed + second.tag.delta) (second :: later) := rfl

/-- One event more is one point more, and the points before it stay as they are. -/
theorem replay_concat (seed : Int) (first : Event) (later : List Event) (last : Event) :
    replay seed (first :: later ++ [last]) =
      replay seed (first :: later) ++
        [⟨last.instant, seed + total later + last.tag.delta⟩] := by
  induction later generalizing seed first with
  | nil =>
    rw [total_nil, Int.add_zero]
    rfl
  | cons second later ih =>
    have count : seed + second.tag.delta + total later = seed + total (second :: later) := by
      rw [total_cons]
      omega
    rw [List.cons_append, List.cons_append, replay_cons_cons, replay_cons_cons,
      ← List.cons_append, ih, count]
    rfl

/-- The last point of a replay has counted all changes. -/
theorem exists_replay_eq_concat (seed : Int) (first : Event) (later : List Event) :
    ∃ earlier instant,
      replay seed (first :: later) = earlier ++ [⟨instant, seed + total later⟩] := by
  rcases List.eq_nil_or_concat later with rfl | ⟨later, last, rfl⟩
  · refine ⟨[], first.instant, ?_⟩
    rw [total_nil, Int.add_zero]
    rfl
  · refine ⟨replay seed (first :: later), last.instant, ?_⟩
    rw [List.concat_eq_append, ← List.cons_append, replay_concat, total_append, total_cons,
      total_nil, Int.add_zero, Int.add_assoc]

theorem map_instant_replay (seed : Int) (events : List Event) :
    (replay seed events).map Point.instant = events.map Event.instant := by
  cases events with
  | nil => rfl
  | cons first later =>
    induction later generalizing seed first with
    | nil => rfl
    | cons second later ih =>
      rw [replay_cons_cons, List.map_cons, ih]
      rfl

/-- The counts of a replay: the seed, moved by any of the first events after the very first. -/
theorem exists_mem_replay_iff {count : Int} :
    (∃ point ∈ replay seed (first :: later), point.count = count) ↔
      ∃ before, before <+: later ∧ count = seed + total before := by
  -- The seed of the rest has moved by the second event, so the induction is for every seed.
  induction later generalizing seed first count with
  | nil =>
    constructor
    · rintro ⟨point, member, rfl⟩
      rw [List.mem_singleton.1 member]
      exact ⟨[], List.nil_prefix, (Int.add_zero seed).symm⟩
    · rintro ⟨before, isPrefix, rfl⟩
      rw [List.prefix_nil.1 isPrefix]
      exact ⟨⟨first.instant, seed⟩, List.mem_singleton_self _, (Int.add_zero seed).symm⟩
  | cons second later ih =>
    rw [replay_cons_cons]
    constructor
    · rintro ⟨point, member, rfl⟩
      rcases List.mem_cons.1 member with rfl | member
      · exact ⟨[], List.nil_prefix, (Int.add_zero seed).symm⟩
      · obtain ⟨before, isPrefix, count⟩ := ih.1 ⟨point, member, rfl⟩
        refine ⟨second :: before, List.cons_prefix_cons.2 ⟨rfl, isPrefix⟩, ?_⟩
        rw [count, total_cons]
        omega
    · rintro ⟨before, isPrefix, rfl⟩
      rcases List.prefix_cons_iff.1 isPrefix with rfl | ⟨rest, rfl, restPrefix⟩
      · exact ⟨⟨first.instant, seed⟩, List.mem_cons_self, (Int.add_zero seed).symm⟩
      · obtain ⟨point, member, count⟩ := ih.2 ⟨rest, restPrefix, rfl⟩
        refine ⟨point, List.mem_cons_of_mem _ member, ?_⟩
        rw [count, total_cons]
        omega

/-! ## Events in ascending order -/

/-- The events do not go back in time. -/
def Ascending (events : List Event) : Prop :=
  events.Pairwise fun earlier later => earlier.instant ≤ later.instant

instance (events : List Event) : Decidable (Ascending events) :=
  inferInstanceAs (Decidable (events.Pairwise fun earlier later =>
    earlier.instant ≤ later.instant))

/-- The events up to an instant. -/
def eventsUpTo (t : Instant) (events : List Event) : List Event :=
  events.filter fun event => event.instant ≤ t

/-- The points up to an instant. -/
def pointsUpTo (t : Instant) (points : List Point) : List Point :=
  points.filter fun point => point.instant ≤ t

variable {t : Instant}

theorem eventsUpTo_cons_of_le (upTo : first.instant ≤ t) (later : List Event) :
    eventsUpTo t (first :: later) = first :: eventsUpTo t later :=
  List.filter_cons_of_pos (decide_eq_true upTo)

theorem eventsUpTo_append (t : Instant) (before later : List Event) :
    eventsUpTo t (before ++ later) = eventsUpTo t before ++ eventsUpTo t later :=
  List.filter_append ..

theorem pointsUpTo_cons_of_le {point : Point} (upTo : point.instant ≤ t) (points : List Point) :
    pointsUpTo t (point :: points) = point :: pointsUpTo t points :=
  List.filter_cons_of_pos (decide_eq_true upTo)

theorem eventsUpTo_of_after (ascending : Ascending (first :: later))
    (after : ¬ first.instant ≤ t) : eventsUpTo t (first :: later) = [] := by
  apply List.filter_eq_nil_iff.2
  intro event member upTo
  have notAfter : event.instant ≤ t := of_decide_eq_true upTo
  rcases List.mem_cons.1 member with rfl | member
  · exact after notAfter
  · exact after (Std.le_trans ((List.pairwise_cons.1 ascending).1 event member) notAfter)

theorem pointsUpTo_replay_of_after (seed : Int) (ascending : Ascending (first :: later))
    (after : ¬ first.instant ≤ t) : pointsUpTo t (replay seed (first :: later)) = [] := by
  apply List.filter_eq_nil_iff.2
  intro point member upTo
  have member : point.instant ∈ (first :: later).map Event.instant := by
    rw [← map_instant_replay seed]
    exact List.mem_map_of_mem member
  obtain ⟨event, member, same⟩ := List.mem_map.1 member
  have none := List.filter_eq_nil_iff.1 (eventsUpTo_of_after ascending after) event member
  rw [same] at none
  exact none upTo

/-- The last point up to an instant has counted the events up to that instant. -/
theorem getLast?_pointsUpTo (ascending : Ascending (first :: later)) (upTo : first.instant ≤ t) :
    (pointsUpTo t (replay seed (first :: later))).getLast?.map Point.count =
      some (seed + total (eventsUpTo t later)) := by
  induction later generalizing seed first with
  | nil =>
    have alone : pointsUpTo t (replay seed [first]) = [⟨first.instant, seed⟩] :=
      pointsUpTo_cons_of_le upTo []
    rw [alone]
    exact congrArg some (Int.add_zero seed).symm
  | cons second later ih =>
    have rest : Ascending (second :: later) := (List.pairwise_cons.1 ascending).2
    rw [replay_cons_cons, pointsUpTo_cons_of_le upTo]
    by_cases secondUpTo : second.instant ≤ t
    · have last : (pointsUpTo t (replay (seed + second.tag.delta) (second :: later))).getLast?.map
          Point.count = some (seed + second.tag.delta + total (eventsUpTo t later)) :=
        ih rest secondUpTo
      rw [eventsUpTo_cons_of_le secondUpTo, total_cons, ← Int.add_assoc, ← last, List.getLast?_cons]
      cases found : (pointsUpTo t (replay (seed + second.tag.delta) (second :: later))).getLast? with
      | none =>
        rw [found] at last
        cases last
      | some point => rfl
    · rw [pointsUpTo_replay_of_after _ rest secondUpTo, eventsUpTo_of_after rest secondUpTo,
        total_nil, Int.add_zero]
      rfl

end SwarmChart.Series
