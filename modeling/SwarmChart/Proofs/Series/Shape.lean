import Mathlib.Data.List.Chain
import SwarmChart.Proofs.Series.Bounds

/-!
# The shape of a series

Whatever its participants and its window, a series has one point for each edge of the window and for
each recent edge of a participant, ends at the finish, moves by one at most from point to point, and
leaves the range of its counts by no more than the number of participants on either side
(`Series.shapely_ofSwarm`). Nothing is asked of the participants here: the bounds hold although a
participant may close before it opens, or open twice for the series.
-/

set_option autoImplicit false

namespace SwarmChart.Series

/-- The count fits in 64 signed bits. -/
def FitsWord (count : Int) : Prop := -9223372036854775808 ≤ count ∧ count < 9223372036854775808

/-- The shape of a series of the metric for the participants over the window. -/
structure Shapely (participants : List Participant) (metric : Metric) (window : Window)
    (points : List Point) : Prop where
  length : points.length = 2 + participants.countP (opensRecently metric window) +
    participants.countP (closesRecently metric window)
  finish : points.getLast?.map Point.instant = some window.finish
  steady : points.IsChain fun before after => (after.count - before.count).natAbs ≤ 1
  bounded : ∀ point ∈ points,
    -participants.length ≤ point.count ∧ point.count ≤ 2 * participants.length
  /-- No memory holds more participants than that. -/
  fitsWord : participants.length ≤ 4611686018427387903 → ∀ point ∈ points, FitsWord point.count

variable {participants : List Participant} {metric : Metric} {window : Window}

/-! ## The number of points -/

theorem length_replay (seed : Int) (events : List Event) :
    (replay seed events).length = events.length := by
  rw [← List.length_map Point.instant, map_instant_replay, List.length_map]

theorem length_eventIfRecent (window : Window) (tag : Tag) (edge? : Option Instant) :
    (eventIfRecent window tag edge?).length = (edge?.any window.isRecent).toNat := by
  cases recent : edge?.any window.isRecent with
  | false =>
    rw [eventIfRecent_of_old recent]
    rfl
  | true =>
    obtain ⟨edge, -, single⟩ := exists_eventIfRecent recent tag
    rw [single]
    rfl

/-- As many events are emitted as participants have recent edges. -/
theorem length_allEmitted (participants : List Participant) (metric : Metric) (window : Window) :
    (allEmitted participants metric window).length =
      participants.countP (opensRecently metric window) +
        participants.countP (closesRecently metric window) := by
  induction participants with
  | nil => rfl
  | cons participant participants ih =>
    have own : (emitted metric window participant).length =
        (opensRecently metric window participant).toNat +
          (closesRecently metric window participant).toNat := by
      rw [emitted, List.length_append, length_eventIfRecent, length_eventIfRecent]
      rfl
    rw [allEmitted, List.flatMap_cons, List.length_append, own, ← allEmitted, ih]
    simp only [countP_cons_toNat]
    omega

/-- Besides the recent edges there are the two boundaries. -/
theorem length_events (participants : List Participant) (metric : Metric) (window : Window) :
    (events participants metric window).length =
      2 + participants.countP (opensRecently metric window) +
        participants.countP (closesRecently metric window) := by
  have sorted := (chronological_perm (emissions participants metric window)).length_eq
  rw [events_eq, List.length_append, sorted, emissions, List.length_cons, ← allEmitted,
    length_allEmitted, List.length_singleton]
  omega

/-- A series ends at the finish of its window. -/
theorem getLast?_instant_ofSwarm (participants : List Participant) (metric : Metric)
    (window : Window) :
    (ofSwarm participants metric window).getLast?.map Point.instant = some window.finish := by
  rw [← List.getLast?_map, ofSwarm, map_instant_replay, events_eq, List.map_append,
    List.map_singleton, List.getLast?_concat]

/-! ## From point to point -/

theorem isChain_cons_steps {point : Point} {count : Int} (same : point.count = count)
    (later : List Event) :
    (point :: steps count later).IsChain fun before after =>
      (after.count - before.count).natAbs ≤ 1 := by
  induction later generalizing point count with
  | nil => exact .singleton point
  | cons event later ih =>
    refine .cons_cons ?_ (ih rfl)
    have moved := delta_bounds event.tag
    dsimp only
    omega

/-- No step of a series is greater than one. -/
theorem isChain_replay (seed : Int) (events : List Event) :
    (replay seed events).IsChain fun before after =>
      (after.count - before.count).natAbs ≤ 1 := by
  cases events with
  | nil => exact .nil
  | cons first later => exact isChain_cons_steps rfl later

/-! ## The range of the counts -/

/-- The event raises the counter. -/
def raises (event : Event) : Bool := event.tag = .increase

/-- The event lowers the counter. -/
def lowers (event : Event) : Bool := event.tag = .decrease

/-- Events add up to those that raise the counter less those that lower it. -/
theorem total_eq_countP (events : List Event) :
    total events = events.countP raises - events.countP lowers := by
  induction events with
  | nil => rfl
  | cons event events ih =>
    rw [total_cons, ih, countP_cons_toNat, countP_cons_toNat, raises, lowers]
    cases event.tag <;> simp [Tag.delta] <;> omega

/-- A participant raises the counter once at most and lowers it once at most. -/
theorem countP_emitted_le (metric : Metric) (window : Window) (participant : Participant) :
    (emitted metric window participant).countP raises ≤ 1 ∧
      (emitted metric window participant).countP lowers ≤ 1 := by
  cases opens : opensRecently metric window participant with
  | false =>
    cases closes : closesRecently metric window participant with
    | false =>
      rw [emitted_of_neither opens closes]
      exact ⟨Nat.zero_le 1, Nat.zero_le 1⟩
    | true =>
      obtain ⟨closing, -, shape⟩ := emitted_of_closes opens closes
      rw [shape]
      exact ⟨Nat.zero_le 1, Nat.le_refl 1⟩
  | true =>
    cases closes : closesRecently metric window participant with
    | false =>
      obtain ⟨opening, -, shape⟩ := emitted_of_opens opens closes
      rw [shape]
      exact ⟨Nat.le_refl 1, Nat.zero_le 1⟩
    | true =>
      obtain ⟨opening, closing, -, -, shape⟩ := emitted_of_both opens closes
      rw [shape]
      exact ⟨Nat.le_refl 1, Nat.le_refl 1⟩

/-- Each participant raises the counter at most once, and lowers it at most once. -/
theorem countP_allEmitted_le (participants : List Participant) (metric : Metric)
    (window : Window) :
    (allEmitted participants metric window).countP raises ≤ participants.length ∧
      (allEmitted participants metric window).countP lowers ≤ participants.length := by
  induction participants with
  | nil => exact ⟨Nat.le_refl 0, Nat.le_refl 0⟩
  | cons participant participants ih =>
    have own := countP_emitted_le metric window participant
    rw [allEmitted, List.flatMap_cons, List.countP_append, List.countP_append, ← allEmitted,
      List.length_cons]
    omega

/-- Behind the first event no more is counted than what is emitted, since boundaries do not
count. -/
theorem countP_le_of_prefix {first : Event} {later before : List Event}
    (split : events participants metric window = first :: later) (isPrefix : before <+: later)
    {p : Event → Bool} (passes : ∀ instant, p ⟨instant, .boundary⟩ = false) :
    before.countP p ≤ (allEmitted participants metric window).countP p := by
  have sorted := (chronological_perm (emissions participants metric window)).countP_eq p
  calc before.countP p
      ≤ (events participants metric window).countP p := by
        rw [split]
        exact (isPrefix.sublist.trans (List.sublist_cons_self first later)).countP_le
    _ = (allEmitted participants metric window).countP p := by
        rw [events_eq, List.countP_append, sorted, emissions, ← allEmitted, countP_cons_toNat,
          countP_cons_toNat, passes, passes]
        rfl

/-- A count stays within these bounds also for participants that are not consistent. -/
theorem count_bounds {point : Point} (member : point ∈ ofSwarm participants metric window) :
    -participants.length ≤ point.count ∧ point.count ≤ 2 * participants.length := by
  obtain ⟨first, later, split⟩ : ∃ first later,
      events participants metric window = first :: later := by
    apply List.exists_cons_of_length_pos
    rw [length_events]
    omega
  rw [ofSwarm, split] at member
  obtain ⟨before, isPrefix, count⟩ := exists_mem_replay_iff.1 ⟨point, member, rfl⟩
  have counted : baseline participants metric window.effectiveStart ≤ participants.length :=
    List.countP_le_length
  have raised : before.countP raises ≤ _ := countP_le_of_prefix split isPrefix fun _ => rfl
  have lowered : before.countP lowers ≤ _ := countP_le_of_prefix split isPrefix fun _ => rfl
  have emitted := countP_allEmitted_le participants metric window
  rw [total_eq_countP] at count
  omega

/-- Every series has the shape that the charts rely on, whatever the participants. -/
theorem shapely_ofSwarm (participants : List Participant) (metric : Metric) (window : Window) :
    Shapely participants metric window (ofSwarm participants metric window) where
  length := by rw [ofSwarm, length_replay, length_events]
  finish := getLast?_instant_ofSwarm participants metric window
  steady := isChain_replay _ _
  bounded _ := count_bounds
  fitsWord few _ member := by
    have bounds := count_bounds member
    rw [FitsWord]
    omega

end SwarmChart.Series
