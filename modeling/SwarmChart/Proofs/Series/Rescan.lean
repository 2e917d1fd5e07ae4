import SwarmChart.Proofs.Series.Edges

/-!
# The folded series against a scan of everything

At any instant the baseline is what has opened by then less what has closed, except that inverted
participants, which close before they open, are not subtracted (`Series.baseline_add_reached`).
The events of a window add up to the edges between its start and that instant. Both together say
what the series holds at every instant from the start on: the baseline of that instant, off by the
edges on the very start, which are counted there and emitted too, and by the inverted participants
(`Series.ofSwarm_rescan`).
-/

set_option autoImplicit false

namespace SwarmChart.Series

/-- The participants that open at the instant, less those that close at it. -/
def edgeBalance (participants : List Participant) (metric : Metric) (instant : Instant) : Int :=
  participants.countP (fun participant => metric.opening? participant = some instant) -
    participants.countP (fun participant => metric.closing? participant = some instant)

/-- The participant has closed by the instant, but opens only later. -/
def isInverted (metric : Metric) (instant : Instant) (participant : Participant) : Bool :=
  match metric.opening? participant, metric.closing? participant with
  | some opening, some closing => closing ≤ instant && instant < opening
  | _, _ => false

/-- The number of participants that are inverted at the instant. -/
def inversions (participants : List Participant) (metric : Metric) (instant : Instant) : Nat :=
  participants.countP (isInverted metric instant)

/-- The participant opens no later than it closes, if it does both. -/
def InOrder (metric : Metric) (participant : Participant) : Prop :=
  ∀ opening ∈ metric.opening? participant, ∀ closing ∈ metric.closing? participant,
    opening ≤ closing

instance (metric : Metric) (participant : Participant) : Decidable (InOrder metric participant) :=
  inferInstanceAs (Decidable (∀ opening ∈ metric.opening? participant,
    ∀ closing ∈ metric.closing? participant, opening ≤ closing))

section Edge

variable (edge? : Participant → Option Instant) (participants : List Participant)

/-- The number of participants with that edge at the instant or before it. -/
def reached (instant : Instant) : Nat :=
  participants.countP fun participant => (edge? participant).any (· ≤ instant)

/-- The number of participants with that edge at the instant or before it, but still recent. -/
def recentlyReached (window : Window) (instant : Instant) : Nat :=
  participants.countP fun participant =>
    (edge? participant).any fun edge => window.isRecent edge && edge ≤ instant

end Edge

variable {participants : List Participant} {participant : Participant} {metric : Metric}
  {window : Window} {t : Instant}

/-! ## Inverted participants -/

theorem inversions_eq_zero_iff :
    inversions participants metric t = 0 ↔
      ∀ participant ∈ participants, isInverted metric t participant = false := by
  simp only [inversions, List.countP_eq_zero, Bool.not_eq_true]

theorem isInverted_of_inOrder (inOrder : InOrder metric participant) :
    isInverted metric t participant = false := by
  rw [isInverted]
  split
  · next opening closing opens closes =>
    have before := inOrder opening opens closing closes
    rw [Bool.and_eq_false_imp, decide_eq_true_iff, decide_eq_false_iff_not, Std.not_lt]
    intro closed
    exact Std.le_trans before closed
  · rfl

/-! ## The baseline -/

/-- A participant is counted if its opening is reached and its closing is not, unless it is
inverted. -/
theorem isCounted_add_reached (metric : Metric) (t : Instant) (participant : Participant) :
    (isCounted metric t participant).toNat + ((metric.closing? participant).any (· ≤ t)).toNat =
      ((metric.opening? participant).any (· ≤ t)).toNat +
        (isInverted metric t participant).toNat := by
  cases opens : metric.opening? participant with
  | none =>
    rw [isCounted, isInverted, opens, Metric.closing?_of_none opens]
    rfl
  | some opening =>
    rw [isCounted, isInverted, opens, Metric.closing?_of_some opens, Participant.connectedAfter]
    cases participant.disconnectedAt with
    | none => simp
    | some closing =>
      have notClosed : t < closing ↔ ¬ closing ≤ t := Std.not_le.symm
      have notOpened : t < opening ↔ ¬ opening ≤ t := Std.not_le.symm
      by_cases opened : opening ≤ t <;> by_cases closed : closing ≤ t <;>
        simp [notClosed, notOpened, opened, closed]

/-- What has opened and not closed is counted, and what is inverted has closed without being
counted. -/
theorem baseline_add_reached (participants : List Participant) (metric : Metric) (t : Instant) :
    baseline participants metric t + reached metric.closing? participants t =
      reached metric.opening? participants t + inversions participants metric t := by
  induction participants with
  | nil => rfl
  | cons participant participants ih =>
    have own := isCounted_add_reached metric t participant
    simp only [baseline, inversions, reached, countP_cons_toNat] at ih ⊢
    omega

/-! ## The events of a window -/

/-- The event of an edge adds its change once the edge is reached, if it is recent. -/
theorem total_eventIfRecent (window : Window) (tag : Tag) (t : Instant) (edge? : Option Instant) :
    total (eventsUpTo t (eventIfRecent window tag edge?)) =
      tag.delta * (edge?.any fun edge => window.isRecent edge && edge ≤ t).toNat := by
  cases edge? with
  | none =>
    rw [eventIfRecent_none, Option.any_none]
    exact (Int.mul_zero _).symm
  | some edge =>
    rw [eventIfRecent_some, Option.any_some]
    cases window.isRecent edge with
    | false => exact (Int.mul_zero _).symm
    | true => by_cases upTo : edge ≤ t <;> simp [eventsUpTo, upTo]

/-- Up to an instant the events add up to the recent openings by then less the recent closings. -/
theorem total_allEmitted (participants : List Participant) (metric : Metric) (window : Window)
    (t : Instant) :
    total (eventsUpTo t (allEmitted participants metric window)) =
      recentlyReached metric.opening? participants window t -
        recentlyReached metric.closing? participants window t := by
  induction participants with
  | nil => rfl
  | cons participant participants ih =>
    have own : total (eventsUpTo t (emitted metric window participant)) =
        ((metric.opening? participant).any fun edge => window.isRecent edge && edge ≤ t).toNat -
          ((metric.closing? participant).any fun edge => window.isRecent edge && edge ≤ t).toNat := by
      rw [emitted, eventsUpTo_append, total_append, total_eventIfRecent, total_eventIfRecent,
        Tag.delta, Tag.delta]
      omega
    rw [allEmitted, List.flatMap_cons, eventsUpTo_append, total_append, own, ← allEmitted, ih]
    simp only [recentlyReached, countP_cons_toNat]
    omega

/-- An edge is reached recently or by the start, and both only on the very start. -/
theorem recentlyReached_edge {edge start : Instant}
    (recent : window.isRecent edge = true ↔ start ≤ edge) (after : start ≤ t) :
    (window.isRecent edge && decide (edge ≤ t)).toNat + (decide (edge ≤ start)).toNat =
      (decide (edge ≤ t)).toNat + (decide (some edge = some start)).toNat := by
  by_cases early : edge ≤ start
  · have upTo : edge ≤ t := Std.le_trans early after
    by_cases onStart : edge = start
    · subst onStart
      rw [recent.2 (Std.le_refl _)]
      simp [upTo]
    · have old : window.isRecent edge = false := by
        rw [Bool.eq_false_iff, ne_eq, recent]
        intro late
        exact onStart (Std.le_antisymm early late)
      simp [old, early, upTo, onStart]
  · have late : start ≤ edge := Std.le_of_not_ge early
    have off : edge ≠ start := by
      rintro rfl
      exact early (Std.le_refl _)
    simp [recent.2 late, early, off]

/-- The edges from the start to an instant are those up to the instant, without those up to the
start but with those on the very start. -/
theorem recentlyReached_add_reached (edge? : Participant → Option Instant) {start : Instant}
    (recency : ∀ participant ∈ participants, ∀ edge, edge? participant = some edge →
      (window.isRecent edge = true ↔ start ≤ edge)) (after : start ≤ t) :
    recentlyReached edge? participants window t + reached edge? participants start =
      reached edge? participants t +
        participants.countP (fun participant => edge? participant = some start) := by
  induction participants with
  | nil => rfl
  | cons participant participants ih =>
    have rest := ih fun other among => recency other (List.mem_cons_of_mem _ among)
    have own : ((edge? participant).any fun edge => window.isRecent edge && edge ≤ t).toNat +
        ((edge? participant).any (· ≤ start)).toNat =
          ((edge? participant).any (· ≤ t)).toNat +
            (decide (edge? participant = some start)).toNat := by
      cases found : edge? participant with
      | none => rfl
      | some edge =>
        have recent := recency participant List.mem_cons_self edge found
        exact recentlyReached_edge recent after
    simp only [recentlyReached, reached, countP_cons_toNat] at rest ⊢
    omega

/-! ## The series -/

/-- Where recent means not before the start, the count at an instant is the baseline there, off by
the edges on the start and by what is inverted. -/
theorem seed_add_total
    (recency : ∀ participant ∈ participants, ∀ edge ∈ metric.edges participant,
      (window.isRecent edge = true ↔ window.start ≤ edge)) (after : window.start ≤ t) :
    baseline participants metric window.start +
        total (eventsUpTo t (allEmitted participants metric window)) =
      baseline participants metric t + edgeBalance participants metric window.start +
        inversions participants metric window.start - inversions participants metric t := by
  have atStart := baseline_add_reached participants metric window.start
  have atInstant := baseline_add_reached participants metric t
  have openings := recentlyReached_add_reached metric.opening?
    (fun participant among edge opens =>
      recency participant among edge (Metric.mem_edges.2 (Or.inl opens))) after
  have closings := recentlyReached_add_reached metric.closing?
    (fun participant among edge closes =>
      recency participant among edge (Metric.mem_edges.2 (Or.inr closes))) after
  rw [total_allEmitted, edgeBalance]
  omega

/-- The series of a window that is not empty, against a scan of all participants. -/
theorem ofSwarm_rescan {now : Instant} {span : Span} (inRange : now.inRange = true)
    (ordinary : now.Ordinary) (nonempty : (Window.trailing now span).isEmpty = false)
    (edges : OrdinaryEdges metric participants) :
    (∀ t, (Window.trailing now span).start ≤ t →
      (pointsUpTo t (ofSwarm participants metric (.trailing now span)).dropLast).getLast?.map
          Point.count =
        some (baseline participants metric t +
          edgeBalance participants metric (Window.trailing now span).start +
          inversions participants metric (Window.trailing now span).start -
          inversions participants metric t)) ∧
      (ofSwarm participants metric (.trailing now span)).head? =
        some ⟨(Window.trailing now span).start,
          baseline participants metric (Window.trailing now span).start⟩ ∧
      ∃ earlier instant count,
        ofSwarm participants metric (.trailing now span) =
          earlier ++ [⟨instant, count⟩, ⟨now, count⟩] := by
  have fromStart := effectiveStart_le_of_mem_allEmitted inRange ordinary edges span
  have recency := isRecent_iff_of_ordinary inRange ordinary edges nonempty
  have series := ofSwarm_of_le fromStart
  rw [Window.effectiveStart_of_not_isEmpty nonempty] at fromStart series
  refine ⟨?_, ?_, ?_⟩
  -- The series is a seed and sorted events behind the start, so it counts the seed and the events
  -- that are passed; `seed_add_total` is that count for all participants at once.
  · intro t after
    have ascending : Ascending (⟨(Window.trailing now span).start, .boundary⟩ ::
        chronological (allEmitted participants metric (.trailing now span))) :=
      ascending_cons_chronological fromStart
    rw [series, List.dropLast_concat, getLast?_pointsUpTo ascending after,
      total_eventsUpTo_chronological, seed_add_total recency after]
  · rw [series]
    rfl
  · obtain ⟨earlier, instant, last⟩ := exists_replay_eq_concat
      (baseline participants metric (Window.trailing now span).start)
      ⟨(Window.trailing now span).start, .boundary⟩
      (chronological (allEmitted participants metric (.trailing now span)))
    rw [series, last, List.append_assoc]
    exact ⟨earlier, instant, _, rfl⟩

/-- One participant connects on the start of the hour before noon, another disconnects five minutes
later and connects only after ten. -/
theorem ofSwarm_rescan_after_five_minutes :
    (pointsUpTo ⟨1654859100, 0⟩
        (ofSwarm [⟨⟨1654858800, 0⟩, none, none⟩, ⟨⟨1654859400, 0⟩, some ⟨1654859100, 0⟩, none⟩]
          .activity (.trailing ⟨1654862400, 0⟩ ⟨3600000000000⟩)).dropLast).getLast?.map
        Point.count = some 1 :=
  have rescan := ofSwarm_rescan
    (by decide : (⟨1654862400, 0⟩ : Instant).inRange = true) (by decide)
    (by decide : (Window.trailing ⟨1654862400, 0⟩ ⟨3600000000000⟩).isEmpty = false)
    (by decide : OrdinaryEdges .activity
      [⟨⟨1654858800, 0⟩, none, none⟩, ⟨⟨1654859400, 0⟩, some ⟨1654859100, 0⟩, none⟩])
  (rescan.1 ⟨1654859100, 0⟩ (by decide)).trans (by decide)

end SwarmChart.Series
