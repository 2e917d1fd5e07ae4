import SwarmChart.Proofs.Series.CountedOnce

/-!
# The bounds of a count

A count of participants is never negative and never exceeds the number of participants, as long as
each of them is consistent and is counted once: any prefix of the sorted events is a prefix of the
events of each participant, and these keep its share at zero or one. Without that condition the
bounds do not hold (`Series.bounded_iff_countedOnce`), so it is the weakest one on participants.
-/

set_option autoImplicit false

namespace SwarmChart.Series

variable {participants : List Participant} {metric : Metric} {window : Window}

/-- Every count of the series lies between zero and the number of participants. -/
def Bounded (participants : List Participant) (metric : Metric) (window : Window) : Prop :=
  ∀ point ∈ ofSwarm participants metric window,
    0 ≤ point.count ∧ point.count ≤ participants.length

/-! ## Prefixes of the sorted events -/

theorem baseline_cons (participant : Participant) (participants : List Participant)
    (metric : Metric) (t : Instant) :
    baseline (participant :: participants) metric t =
      baseline participants metric t + (isCounted metric t participant).toNat :=
  countP_cons_toNat _ _ _

/-- After any prefix of the sorted events the count is within the bounds, and positive if an event
of it was early. -/
theorem prefix_bounds
    (consistent : ∀ participant ∈ participants, participant.Consistent)
    (once : ∀ participant ∈ participants, CountedOnce metric window participant)
    {before : List Event}
    (isPrefix : before <+: chronological (allEmitted participants metric window)) :
    (before.countP (isEarly window) : Int) ≤
        baseline participants metric window.effectiveStart + total before ∧
      baseline participants metric window.effectiveStart + total before ≤
        participants.length := by
  induction participants generalizing before with
  | nil =>
    have none : chronological (allEmitted [] metric window) = [] := List.mergeSort_nil
    rw [none] at isPrefix
    rw [List.prefix_nil.1 isPrefix]
    exact ⟨Int.le_refl 0, Int.le_refl 0⟩
  | cons participant participants ih =>
    obtain ⟨ownConsistent, othersConsistent⟩ := List.forall_mem_cons.1 consistent
    obtain ⟨ownOnce, othersOnce⟩ := List.forall_mem_cons.1 once
    rw [allEmitted, List.flatMap_cons] at isPrefix
    -- What is passed of all events is what is passed of one's own and of those of the others.
    obtain ⟨mine, others, minePrefix, othersPrefix, perm⟩ :=
      exists_prefix_of_prefix_chronological (ascending_emitted ownConsistent) isPrefix
    have own := share_bounds ownConsistent ownOnce minePrefix
    have rest := ih othersConsistent othersOnce othersPrefix
    rw [perm.countP_eq, total_perm perm, List.countP_append, total_append, baseline_cons,
      List.length_cons]
    omega

/-! ## Boundaries move nothing -/

/-- The event is not a boundary. -/
def moves (event : Event) : Bool := event.tag ≠ .boundary

theorem not_moves_boundary (instant : Instant) : ¬ moves ⟨instant, .boundary⟩ = true := by
  intro moving
  exact of_decide_eq_true moving rfl

theorem total_filter_moves (events : List Event) : total (events.filter moves) = total events := by
  induction events with
  | nil => rfl
  | cons event events ih =>
    by_cases moving : moves event = true
    · rw [List.filter_cons_of_pos moving, total_cons, total_cons, ih]
    · have isBoundary : event.tag = .boundary := by
        rw [moves, decide_eq_true_eq, ne_eq, Classical.not_not] at moving
        exact moving
      rw [List.filter_cons_of_neg moving, total_cons, ih, isBoundary]
      exact (Int.zero_add _).symm

theorem moves_of_mem_allEmitted {event : Event}
    (member : event ∈ allEmitted participants metric window) : moves event = true := by
  obtain ⟨participant, -, member⟩ := List.mem_flatMap.1 member
  rw [moves, decide_eq_true_eq]
  obtain ⟨-, ⟨-, tag⟩ | ⟨-, tag⟩⟩ := mem_emitted.1 member
  · rw [tag]
    decide
  · rw [tag]
    decide

/-- Without its boundaries the sorted list holds what the participants emit. -/
theorem filter_moves_events (participants : List Participant) (metric : Metric)
    (window : Window) :
    (events participants metric window).filter moves =
      chronological (allEmitted participants metric window) := by
  obtain ⟨before, later, whole, rest, -⟩ := chronological_cons
    ⟨window.effectiveStart, .boundary⟩ (allEmitted participants metric window)
  have moving : ∀ event ∈ before ++ later, moves event = true := by
    intro event member
    rw [← rest] at member
    exact moves_of_mem_allEmitted ((chronological_perm _).mem_iff.1 member)
  have kept := List.filter_eq_self.2 moving
  rw [events_eq, emissions, ← allEmitted, whole, rest, List.filter_append, List.filter_append,
    List.filter_cons_of_neg (not_moves_boundary _), ← List.filter_append,
    kept]
  exact List.append_nil _

/-- The first event is the boundary at the start, if nothing is emitted from before it, and else
the first of what is emitted. -/
theorem exists_first (participants : List Participant) (metric : Metric) (window : Window) :
    ∃ first later, events participants metric window = first :: later ∧
      ((first.tag = .boundary ∧ ∀ event ∈ allEmitted participants metric window,
          window.effectiveStart ≤ event.instant) ∨
        (isEarly window first = true ∧
          (chronological (allEmitted participants metric window)).head? = some first)) := by
  obtain ⟨before, later, whole, rest, strict⟩ := chronological_cons
    ⟨window.effectiveStart, .boundary⟩ (allEmitted participants metric window)
  rw [events_eq, emissions, ← allEmitted, whole]
  cases before with
  | nil =>
    refine ⟨_, _, rfl, Or.inl ⟨rfl, ?_⟩⟩
    intro event member
    have ascending := ascending_chronological
      (⟨window.effectiveStart, .boundary⟩ :: allEmitted participants metric window)
    rw [whole] at ascending
    rw [← (chronological_perm _).mem_iff, rest] at member
    exact (List.pairwise_cons.1 ascending).1 event member
  | cons first before =>
    refine ⟨_, _, rfl, Or.inr ⟨?_, ?_⟩⟩
    · exact decide_eq_true (strict first List.mem_cons_self)
    · rw [rest]
      rfl

/-! ## The counts of a series -/

/-- Whenever something has been emitted, the series has a point that has counted just that, the
very first event left out. -/
theorem exists_count_of_prefix {first : Event} {later before : List Event}
    (split : events participants metric window = first :: later)
    (isPrefix : before <+: chronological (allEmitted participants metric window))
    (some : before ≠ []) :
    ∃ point ∈ ofSwarm participants metric window,
      point.count = baseline participants metric window.effectiveStart +
        (total before - first.tag.delta) := by
  rw [← filter_moves_events, List.prefix_filter_iff] at isPrefix
  obtain ⟨whole, wholePrefix, rfl⟩ := isPrefix
  rw [split] at wholePrefix
  rcases List.prefix_cons_iff.1 wholePrefix with rfl | ⟨rest, rfl, restPrefix⟩
  · exact absurd rfl some
  · rw [ofSwarm, split, total_filter_moves, total_cons]
    refine exists_mem_replay_iff.2 ⟨rest, restPrefix, ?_⟩
    omega

/-- Consistent participants that are counted once keep the count within its bounds. -/
theorem bounded_of_countedOnce
    (consistent : ∀ participant ∈ participants, participant.Consistent)
    (once : ∀ participant ∈ participants, CountedOnce metric window participant) :
    Bounded participants metric window := by
  intro point member
  obtain ⟨first, later, split, kind⟩ := exists_first participants metric window
  rw [ofSwarm, split] at member
  obtain ⟨before, isPrefix, count⟩ := exists_mem_replay_iff.1 ⟨point, member, rfl⟩
  have moved : (first :: before).filter moves <+:
      chronological (allEmitted participants metric window) := by
    rw [← filter_moves_events, split]
    exact (List.cons_prefix_cons.2 ⟨rfl, isPrefix⟩).filter moves
  have bounds := prefix_bounds consistent once moved
  rw [total_filter_moves, total_cons] at bounds
  rcases kind with ⟨isBoundary, -⟩ | ⟨early, isFirst⟩
  · rw [isBoundary, Tag.delta] at bounds
    omega
  -- The opening that moved nothing is in the count of what was early, which keeps it positive.
  · have emitted : first ∈ allEmitted participants metric window :=
      (chronological_perm _).mem_iff.1 (List.mem_of_mem_head? isFirst)
    obtain ⟨participant, among, own⟩ := List.mem_flatMap.1 emitted
    have opens := increase_of_isEarly (consistent participant among) (once participant among) own
      early
    have counted : 0 < ((first :: before).filter moves).countP (isEarly window) := by
      refine List.countP_pos_iff.2 ⟨first, ?_, early⟩
      exact List.mem_filter.2 ⟨List.mem_cons_self, moves_of_mem_allEmitted emitted⟩
    rw [opens, Tag.delta] at bounds
    omega

/-! ## Necessity -/

theorem delta_bounds (tag : Tag) : -1 ≤ tag.delta ∧ tag.delta ≤ 1 := by
  cases tag <;> decide

/-- Of sorted events those up to an instant come first. -/
theorem prefix_eventsUpTo {sorted : List Event} (ascending : Ascending sorted) (t : Instant) :
    eventsUpTo t sorted <+: sorted := by
  induction sorted with
  | nil => exact List.nil_prefix
  | cons first later ih =>
    by_cases upTo : first.instant ≤ t
    · rw [eventsUpTo_cons_of_le upTo]
      exact List.cons_prefix_cons.2 ⟨rfl, ih (List.pairwise_cons.1 ascending).2⟩
    · rw [eventsUpTo_of_after ascending upTo]
      exact List.nil_prefix

theorem allEmitted_pair (participant : Participant) (metric : Metric) (window : Window) :
    allEmitted [participant, participant] metric window =
      emitted metric window participant ++ emitted metric window participant :=
  congrArg (emitted metric window participant ++ ·) (List.append_nil _)

section Pair

variable {participant : Participant}

/-- Up to an instant at which a participant is counted, nothing of what it emits but its opening has
come. -/
theorem total_eventsUpTo_emitted {t : Instant} (counted : isCounted metric t participant = true)
    (opens : opensRecently metric window participant = true) :
    total (eventsUpTo t (emitted metric window participant)) = 1 := by
  obtain ⟨opening, isOpening, upTo, stillOpen⟩ := isCounted_iff.1 counted
  cases closes : closesRecently metric window participant with
  | false =>
    obtain ⟨other, isOther, shape⟩ := emitted_of_opens opens closes
    rw [isOpening] at isOther
    cases isOther
    rw [shape, eventsUpTo_cons_of_le upTo]
    rfl
  | true =>
    obtain ⟨other, closing, isOther, isClosing, shape⟩ := emitted_of_both opens closes
    rw [isOpening] at isOther
    cases isOther
    have notYet := Std.not_le.2 (stillOpen closing isClosing)
    rw [shape, eventsUpTo_cons_of_le upTo,
      eventsUpTo_of_after (List.pairwise_singleton _ _) notYet]
    rfl

/-- Two of a kind, counted at the start and emitted again, would be counted four times. -/
theorem not_counted_of_opens (twice : Bounded [participant, participant] metric window)
    (counted : isCounted metric window.effectiveStart participant = true) :
    ¬ opensRecently metric window participant = true := by
  intro opens
  have own := total_eventsUpTo_emitted counted opens
  have whole : total (eventsUpTo window.effectiveStart
      (chronological (allEmitted [participant, participant] metric window))) = 2 := by
    rw [total_eventsUpTo_chronological, allEmitted_pair, eventsUpTo_append, total_append, own]
    rfl
  have some : eventsUpTo window.effectiveStart
      (chronological (allEmitted [participant, participant] metric window)) ≠ [] := by
    intro none
    rw [none] at whole
    cases whole
  obtain ⟨first, later, split, -⟩ := exists_first [participant, participant] metric window
  obtain ⟨point, member, count⟩ := exists_count_of_prefix split
    (prefix_eventsUpTo (ascending_chronological _) window.effectiveStart) some
  have bounds := twice point member
  -- The event left out may have moved the count by one, which leaves three of two participants.
  have moved := delta_bounds first.tag
  rw [count, whole, baseline_cons, baseline_cons, counted] at bounds
  simp only [baseline, List.countP_nil, Bool.toNat_true, List.length_cons, List.length_nil] at bounds
  omega

/-- Two of a kind that only close would be counted twice below zero. -/
theorem counted_or_opens_of_closes (twice : Bounded [participant, participant] metric window)
    (closes : closesRecently metric window participant = true) :
    isCounted metric window.effectiveStart participant = true ∨
      opensRecently metric window participant = true := by
  by_contra neither
  obtain ⟨notCounted, notOpened⟩ := not_or.1 neither
  have own : total (emitted metric window participant) = -1 := by
    obtain ⟨closing, -, shape⟩ := emitted_of_closes (Bool.eq_false_iff.2 notOpened) closes
    rw [shape]
    rfl
  have whole : total (chronological (allEmitted [participant, participant] metric window)) =
      -2 := by
    rw [total_chronological, allEmitted_pair, total_append, own]
    rfl
  have some : chronological (allEmitted [participant, participant] metric window) ≠ [] := by
    intro none
    rw [none] at whole
    cases whole
  obtain ⟨first, later, split, -⟩ := exists_first [participant, participant] metric window
  obtain ⟨point, member, count⟩ := exists_count_of_prefix split List.prefix_rfl some
  have bounds := twice point member
  have moved := delta_bounds first.tag
  rw [count, whole, baseline_cons, baseline_cons, Bool.eq_false_iff.2 notCounted] at bounds
  simp only [baseline, List.countP_nil, Bool.toNat_false] at bounds
  omega

/-- One that opens early and closes would lose its opening and be counted below zero. -/
theorem not_closes_of_opensEarly (consistent : participant.Consistent)
    (alone : Bounded [participant] metric window)
    (notCounted : ¬ isCounted metric window.effectiveStart participant = true)
    (early : opensEarly metric window participant = true) :
    ¬ closesRecently metric window participant = true := by
  intro closes
  obtain ⟨opening, isOpening, recent, before⟩ := opensEarly_iff.1 early
  have single : allEmitted [participant] metric window = emitted metric window participant :=
    List.append_nil _
  have opens := opensRecently_iff.2 ⟨opening, isOpening, recent⟩
  obtain ⟨other, closing, isOther, -, shape⟩ := emitted_of_both opens closes
  rw [isOpening] at isOther
  cases isOther
  have sorted : chronological (allEmitted [participant] metric window) =
      [⟨opening, .increase⟩, ⟨closing, .decrease⟩] := by
    rw [single, chronological_of_ascending (ascending_emitted consistent), shape]
  obtain ⟨first, later, split, ⟨-, fromStart⟩ | ⟨-, isFirst⟩⟩ :=
    exists_first [participant] metric window
  -- The boundary does not come first, since the opening is before the start.
  · refine Std.not_lt.2 (fromStart ⟨opening, .increase⟩ ?_) before
    rw [single, shape]
    exact List.mem_cons_self
  · have some : chronological (allEmitted [participant] metric window) ≠ [] := by
      rw [sorted]
      exact List.cons_ne_nil _ _
    -- So the opening comes first and moves nothing, and the closing takes one off.
    obtain ⟨point, member, count⟩ := exists_count_of_prefix split List.prefix_rfl some
    have bounds := alone point member
    rw [sorted] at isFirst count
    cases isFirst
    rw [count, baseline_cons, Bool.eq_false_iff.2 notCounted] at bounds
    simp only [baseline, List.countP_nil, Bool.toNat_false, total_cons, total_nil,
      Tag.delta] at bounds
    omega

/-- A participant that keeps the bounds alone and beside a copy of itself is counted once. -/
theorem countedOnce_of_bounded (consistent : participant.Consistent)
    (alone : Bounded [participant] metric window)
    (twice : Bounded [participant, participant] metric window) :
    CountedOnce metric window participant := by
  constructor
  · rintro ⟨counted, opens⟩
    exact not_counted_of_opens twice counted opens
  · exact counted_or_opens_of_closes twice
  · rintro ⟨early, closes⟩
    obtain ⟨opening, isOpening, recent, -⟩ := opensEarly_iff.1 early
    have opens := opensRecently_iff.2 ⟨opening, isOpening, recent⟩
    have notCounted : ¬ isCounted metric window.effectiveStart participant = true :=
      fun counted => not_counted_of_opens twice counted opens
    exact not_closes_of_opensEarly consistent alone notCounted early closes

end Pair

/-- For a trailing window, whatever consistent participants are admitted: every list of them keeps
its counts within the bounds exactly when each of them is counted once. An empty window counts
everyone once, and for ordinary instants that fails exactly when one edge, but not the other, lies
on the very start. -/
theorem bounded_iff_countedOnce {now : Instant} {span : Span} {admitted : Participant → Prop}
    (consistent : ∀ participant, admitted participant → participant.Consistent) :
    ((∀ participants, (∀ participant ∈ participants, admitted participant) →
          Bounded participants metric (.trailing now span)) ↔
        ∀ participant, admitted participant →
          CountedOnce metric (.trailing now span) participant) ∧
      ((Window.trailing now span).isEmpty = true →
        ∀ participant, CountedOnce metric (.trailing now span) participant) ∧
      (now.inRange = true → now.Ordinary → (Window.trailing now span).isEmpty = false →
        ∀ participant, admitted participant → OrdinaryEdges metric [participant] →
          (CountedOnce metric (.trailing now span) participant ↔
            (metric.opening? participant = some (Window.trailing now span).start ↔
              metric.closing? participant = some (Window.trailing now span).start))) := by
  refine ⟨⟨?_, ?_⟩, ?_, ?_⟩
  -- One participant and a copy of it are enough to tell that it is counted once.
  · intro bounded participant isAdmitted
    refine countedOnce_of_bounded (consistent participant isAdmitted) (bounded _ ?_) (bounded _ ?_)
    · intro other among
      rw [List.mem_singleton.1 among]
      exact isAdmitted
    · intro other among
      rcases List.mem_cons.1 among with rfl | among
      · exact isAdmitted
      · rw [List.mem_singleton.1 among]
        exact isAdmitted
  · intro once participants areAdmitted
    exact bounded_of_countedOnce
      (fun participant among => consistent participant (areAdmitted participant among))
      (fun participant among => once participant (areAdmitted participant among))
  · intro empty participant
    exact countedOnce_of_isEmpty empty metric participant
  · intro inRange ordinary nonempty participant isAdmitted edges
    have recency := isRecent_iff_of_ordinary inRange ordinary edges nonempty participant
      (List.mem_singleton_self _)
    rw [← Window.effectiveStart_of_not_isEmpty nonempty] at recency ⊢
    exact countedOnce_iff (consistent participant isAdmitted) recency

/-- A participant that connects and leaves within the hour before noon is counted zero or one
times. -/
theorem bounded_within_hour :
    Bounded [⟨⟨1654859400, 0⟩, some ⟨1654860000, 0⟩, none⟩] .activity
      (.trailing ⟨1654862400, 0⟩ ⟨3600000000000⟩) := by
  have consistent : ∀ participant : Participant,
      participant = ⟨⟨1654859400, 0⟩, some ⟨1654860000, 0⟩, none⟩ → participant.Consistent := by
    rintro participant rfl
    constructor
    · rintro _ ⟨⟩
      decide
    · rintro _ ⟨⟩
    · rintro _ ⟨⟩
  obtain ⟨bounds, -, ordinary⟩ := bounded_iff_countedOnce consistent
  refine bounds.2 ?_ _ (List.forall_mem_singleton.2 rfl)
  rintro participant rfl
  exact (ordinary (by decide) (by decide) (by decide) _ rfl (by decide)).2 (by decide)

/-- A participant that leaves on the very start of the hour before noon is no longer counted there,
and its leaving takes the count below zero. -/
theorem not_bounded_on_start :
    (⟨⟨1654855200, 0⟩, some ⟨1654858800, 0⟩, none⟩ : Participant).Consistent ∧
      ofSwarm [⟨⟨1654855200, 0⟩, some ⟨1654858800, 0⟩, none⟩] .activity
          (.trailing ⟨1654862400, 0⟩ ⟨3600000000000⟩) =
        [⟨⟨1654858800, 0⟩, 0⟩, ⟨⟨1654858800, 0⟩, -1⟩, ⟨⟨1654862400, 0⟩, -1⟩] ∧
      ¬ Bounded [⟨⟨1654855200, 0⟩, some ⟨1654858800, 0⟩, none⟩] .activity
        (.trailing ⟨1654862400, 0⟩ ⟨3600000000000⟩) := by
  have series : ofSwarm [⟨⟨1654855200, 0⟩, some ⟨1654858800, 0⟩, none⟩] .activity
      (.trailing ⟨1654862400, 0⟩ ⟨3600000000000⟩) =
        [⟨⟨1654858800, 0⟩, 0⟩, ⟨⟨1654858800, 0⟩, -1⟩, ⟨⟨1654862400, 0⟩, -1⟩] := by
    rw [ofSwarm_of_ascending (by decide)]
    decide
  refine ⟨?_, series, ?_⟩
  · constructor
    · rintro _ ⟨⟩
      decide
    · rintro _ ⟨⟩
    · rintro _ ⟨⟩
  · rw [Bounded, series]
    decide

end SwarmChart.Series
