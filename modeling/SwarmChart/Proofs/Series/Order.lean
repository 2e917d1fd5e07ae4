import SwarmChart.Proofs.Series.Replay

/-!
# The order of events

The events of a swarm are sorted behind the boundary at the start of the window. What the sort does
to the first event of a list is said once (`Series.chronological_cons`). A prefix of the sorted
events of a whole swarm is made of a prefix of the events of each participant
(`Series.exists_prefix_of_prefix_chronological`), since the sort keeps events that already ascend in
their order.
-/

set_option autoImplicit false

namespace SwarmChart.Series

/-- The first event may stand before the second one. -/
def noLater (first second : Event) : Bool := first.instant ≤ second.instant

theorem noLater_iff {first second : Event} :
    noLater first second = true ↔ first.instant ≤ second.instant := by
  rw [noLater, decide_eq_true_eq]

theorem noLater_trans (first second third : Event) (h₁ : noLater first second = true)
    (h₂ : noLater second third = true) : noLater first third = true := by
  rw [noLater_iff] at *
  exact Std.le_trans h₁ h₂

theorem noLater_total (first second : Event) :
    (noLater first second || noLater second first) = true := by
  rw [Bool.or_eq_true, noLater_iff, noLater_iff]
  exact Std.le_total

/-- The events in ascending order, those of one instant in the order in which they stand. -/
def chronological (events : List Event) : List Event := events.mergeSort noLater

variable {first : Event} {events before : List Event}

theorem ascending_iff_pairwise :
    Ascending events ↔ events.Pairwise fun a b => noLater a b = true := by
  simp only [Ascending, noLater_iff]

theorem ascending_chronological (events : List Event) : Ascending (chronological events) :=
  ascending_iff_pairwise.2 (List.pairwise_mergeSort noLater_trans noLater_total events)

theorem chronological_perm (events : List Event) : (chronological events).Perm events :=
  List.mergeSort_perm events noLater

/-- Events that do not go back in time are sorted as they are. -/
theorem chronological_of_ascending (ascending : Ascending events) : chronological events = events :=
  List.mergeSort_of_pairwise (ascending_iff_pairwise.1 ascending)

/-- The first of several events goes behind those that are strictly earlier. -/
theorem chronological_cons (first : Event) (events : List Event) :
    ∃ before later, chronological (first :: events) = before ++ first :: later ∧
      chronological events = before ++ later ∧ ∀ event ∈ before, event.instant < first.instant := by
  obtain ⟨before, later, whole, rest, strict⟩ :=
    List.mergeSort_cons noLater_trans noLater_total first events
  refine ⟨before, later, whole, rest, ?_⟩
  intro event member
  have notBefore := strict event member
  rw [Bool.not_eq_true', Bool.eq_false_iff, ne_eq, noLater_iff, Std.not_le] at notBefore
  exact notBefore

/-- An event that comes before all others stays first, since sorting is stable. -/
theorem chronological_cons_of_le (earliest : ∀ event ∈ events, first.instant ≤ event.instant) :
    chronological (first :: events) = first :: chronological events := by
  obtain ⟨before, later, whole, rest, strict⟩ := chronological_cons first events
  cases before with
  | nil => rw [whole, rest, List.nil_append, List.nil_append]
  | cons event before =>
    have member : event ∈ events := by
      rw [← (chronological_perm events).mem_iff, rest]
      exact List.mem_cons_self
    exact absurd (strict event List.mem_cons_self) (Std.not_lt.2 (earliest event member))

theorem total_chronological (events : List Event) : total (chronological events) = total events :=
  total_perm (chronological_perm events)

theorem total_eventsUpTo_chronological (t : Instant) (events : List Event) :
    total (eventsUpTo t (chronological events)) = total (eventsUpTo t events) :=
  total_perm ((chronological_perm events).filter _)

theorem ascending_cons_chronological
    (fromFirst : ∀ event ∈ events, first.instant ≤ event.instant) :
    Ascending (first :: chronological events) := by
  refine List.pairwise_cons.2 ⟨?_, ascending_chronological events⟩
  intro event member
  exact fromFirst event ((chronological_perm events).mem_iff.1 member)

/-- A prefix of a list with an element in it ends before that element or goes past it. -/
theorem prefix_append_cons {earlier later : List Event}
    (isPrefix : before <+: earlier ++ first :: later) :
    before <+: earlier ∨ ∃ more, more <+: later ∧ before = earlier ++ first :: more := by
  rcases List.prefix_or_prefix_of_prefix isPrefix (List.prefix_append earlier (first :: later)) with
    within | ⟨rest, rfl⟩
  · exact Or.inl within
  · have restPrefix := (List.prefix_append_right_inj earlier).1 isPrefix
    rcases List.prefix_cons_iff.1 restPrefix with rfl | ⟨more, rfl, morePrefix⟩
    · rw [List.append_nil]
      exact Or.inl List.prefix_rfl
    · exact Or.inr ⟨more, morePrefix, rfl⟩

/-- A prefix of what is sorted is, up to the order, a prefix of events that ascend already and a
prefix of the others. -/
theorem exists_prefix_of_prefix_chronological {own : List Event} (ascending : Ascending own)
    (isPrefix : before <+: chronological (own ++ events)) :
    ∃ mine others, mine <+: own ∧ others <+: chronological events ∧
      before.Perm (mine ++ others) := by
  induction own generalizing before with
  | nil => exact ⟨[], before, List.nil_prefix, isPrefix, List.Perm.refl _⟩
  | cons first own ih =>
    obtain ⟨firstLe, ownAscending⟩ := List.pairwise_cons.1 ascending
    obtain ⟨earlier, later, whole, rest, strict⟩ := chronological_cons first (own ++ events)
    rw [List.cons_append, whole] at isPrefix
    rcases prefix_append_cons isPrefix with within | ⟨more, morePrefix, rfl⟩
    -- The first event is not reached, so none of those behind it in its own list is.
    · have without : before <+: chronological (own ++ events) := by
        rw [rest]
        exact within.trans (List.prefix_append earlier later)
      obtain ⟨mine, others, minePrefix, othersPrefix, perm⟩ := ih ownAscending without
      cases mine with
      | nil => exact ⟨[], others, List.nil_prefix, othersPrefix, perm⟩
      | cons event mine =>
        have early : event ∈ earlier := by
          refine within.subset (perm.mem_iff.2 ?_)
          exact List.mem_cons_self
        have late := firstLe event (minePrefix.subset List.mem_cons_self)
        exact absurd (strict event early) (Std.not_lt.2 late)
    · have without : earlier ++ more <+: chronological (own ++ events) := by
        rw [rest]
        exact (List.prefix_append_right_inj earlier).2 morePrefix
      obtain ⟨mine, others, minePrefix, othersPrefix, perm⟩ := ih ownAscending without
      refine ⟨first :: mine, others, List.cons_prefix_cons.2 ⟨rfl, minePrefix⟩, othersPrefix, ?_⟩
      exact List.perm_middle.trans (perm.cons first)

/-! ## The events of a swarm -/

variable {participants : List Participant} {metric : Metric} {window : Window}

/-- What all participants emit, in the order of the participants. -/
def allEmitted (participants : List Participant) (metric : Metric) (window : Window) : List Event :=
  participants.flatMap (emitted metric window)

theorem events_eq (participants : List Participant) (metric : Metric) (window : Window) :
    Series.events participants metric window =
      chronological (emissions participants metric window) ++ [⟨window.finish, .boundary⟩] := rfl

/-- Where nothing is emitted from before the start, the boundary at the start comes first. -/
theorem events_of_le
    (fromStart : ∀ event ∈ allEmitted participants metric window,
      window.effectiveStart ≤ event.instant) :
    Series.events participants metric window =
      ⟨window.effectiveStart, .boundary⟩ :: chronological (allEmitted participants metric window) ++
        [⟨window.finish, .boundary⟩] := by
  rw [events_eq, emissions, ← allEmitted, chronological_cons_of_le fromStart]

/-- Events that are emitted in ascending order are replayed as they are. -/
theorem ofSwarm_of_ascending
    (ascending : Ascending (emissions participants metric window)) :
    ofSwarm participants metric window =
      replay (baseline participants metric window.effectiveStart)
        (emissions participants metric window ++ [⟨window.finish, .boundary⟩]) := by
  rw [ofSwarm, events_eq, chronological_of_ascending ascending]

end SwarmChart.Series
