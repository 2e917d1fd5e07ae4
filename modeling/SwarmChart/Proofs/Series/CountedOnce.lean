import SwarmChart.Proofs.Series.Edges

/-!
# Being counted once

A consistent participant that enters the count of a window once (`Series.CountedOnce`) keeps its
share in the count at zero or one through all of its events (`Series.share_bounds`). Where recent
means not before the start, it enters once unless one of its edges, but not the other, lies on the
very start (`Series.countedOnce_iff`): an opening there is counted at the start and emitted too, and
a closing there is emitted although the start no longer counts it.
-/

set_option autoImplicit false

namespace SwarmChart

/-- The participant connects, completes and disconnects in this order. -/
structure Participant.Consistent (participant : Participant) : Prop where
  connected_le_disconnected : ∀ disconnected, participant.disconnectedAt = some disconnected →
    participant.connectedAt ≤ disconnected
  connected_le_completed : ∀ completed, participant.completedAt = some completed →
    participant.connectedAt ≤ completed
  completed_le_disconnected : ∀ completed, participant.completedAt = some completed →
    ∀ disconnected, participant.disconnectedAt = some disconnected → completed ≤ disconnected

/-- A consistent participant opens no later than it closes, for both metrics. -/
theorem Metric.opening_le_closing {metric : Metric} {participant : Participant}
    (consistent : participant.Consistent) {opening closing : Instant}
    (opens : metric.opening? participant = some opening)
    (closes : metric.closing? participant = some closing) : opening ≤ closing := by
  rw [Metric.closing?_of_some opens] at closes
  cases metric with
  | activity =>
    cases opens
    exact consistent.connected_le_disconnected closing closes
  | completion => exact consistent.completed_le_disconnected opening opens closing closes

namespace Series

variable {metric : Metric} {window : Window} {participant : Participant}

/-- The opening of the participant is emitted. -/
def opensRecently (metric : Metric) (window : Window) (participant : Participant) : Bool :=
  (metric.opening? participant).any window.isRecent

/-- The closing of the participant is emitted. -/
def closesRecently (metric : Metric) (window : Window) (participant : Participant) : Bool :=
  (metric.closing? participant).any window.isRecent

/-- The opening of the participant is emitted from before the start of the window. -/
def opensEarly (metric : Metric) (window : Window) (participant : Participant) : Bool :=
  (metric.opening? participant).any fun opening =>
    window.isRecent opening && opening < window.effectiveStart

/-- The participant enters the count of the window at most once, and leaves it only after that. -/
structure CountedOnce (metric : Metric) (window : Window) (participant : Participant) : Prop where
  notTwice : ¬ (isCounted metric window.effectiveStart participant = true ∧
    opensRecently metric window participant = true)
  entered : closesRecently metric window participant = true →
    isCounted metric window.effectiveStart participant = true ∨
      opensRecently metric window participant = true
  /-- The very first event of a series moves nothing, so it must not open what closes later. -/
  inTime : ¬ (opensEarly metric window participant = true ∧
    closesRecently metric window participant = true)

/-- The event stands before the start of the window. -/
def isEarly (window : Window) (event : Event) : Bool := event.instant < window.effectiveStart

/-! ## What one participant emits -/

theorem eventIfRecent_of_old {tag : Tag} {edge? : Option Instant}
    (old : edge?.any window.isRecent = false) : eventIfRecent window tag edge? = [] := by
  cases edge? with
  | none => rfl
  | some edge =>
    rw [Option.any_some] at old
    rw [eventIfRecent_some, old]
    rfl

theorem exists_eventIfRecent {edge? : Option Instant}
    (recent : edge?.any window.isRecent = true) (tag : Tag) :
    ∃ edge, edge? = some edge ∧ eventIfRecent window tag edge? = [⟨edge, tag⟩] := by
  obtain ⟨edge, rfl, isRecent⟩ := (Option.any_eq_true _ _).1 recent
  refine ⟨edge, rfl, ?_⟩
  rw [eventIfRecent_some, if_pos isRecent]

theorem emitted_of_neither (stays : opensRecently metric window participant = false)
    (remains : closesRecently metric window participant = false) :
    emitted metric window participant = [] := by
  rw [emitted, eventIfRecent_of_old stays, eventIfRecent_of_old remains]
  rfl

theorem emitted_of_opens (opens : opensRecently metric window participant = true)
    (remains : closesRecently metric window participant = false) :
    ∃ opening, metric.opening? participant = some opening ∧
      emitted metric window participant = [⟨opening, .increase⟩] := by
  obtain ⟨opening, isOpening, first⟩ := exists_eventIfRecent opens .increase
  refine ⟨opening, isOpening, ?_⟩
  rw [emitted, first, eventIfRecent_of_old remains]
  rfl

theorem emitted_of_closes (stays : opensRecently metric window participant = false)
    (closes : closesRecently metric window participant = true) :
    ∃ closing, metric.closing? participant = some closing ∧
      emitted metric window participant = [⟨closing, .decrease⟩] := by
  obtain ⟨closing, isClosing, second⟩ := exists_eventIfRecent closes .decrease
  refine ⟨closing, isClosing, ?_⟩
  rw [emitted, eventIfRecent_of_old stays, second]
  rfl

/-- A participant with two recent edges emits both, the opening first. -/
theorem emitted_of_both (opens : opensRecently metric window participant = true)
    (closes : closesRecently metric window participant = true) :
    ∃ opening closing, metric.opening? participant = some opening ∧
      metric.closing? participant = some closing ∧
      emitted metric window participant = [⟨opening, .increase⟩, ⟨closing, .decrease⟩] := by
  obtain ⟨opening, isOpening, first⟩ := exists_eventIfRecent opens .increase
  obtain ⟨closing, isClosing, second⟩ := exists_eventIfRecent closes .decrease
  refine ⟨opening, closing, isOpening, isClosing, ?_⟩
  rw [emitted, first, second]
  rfl

/-- What a consistent participant emits does not go back in time. -/
theorem ascending_emitted (consistent : participant.Consistent) :
    Ascending (emitted metric window participant) := by
  cases opens : opensRecently metric window participant with
  | false =>
    cases closes : closesRecently metric window participant with
    | false =>
      rw [emitted_of_neither opens closes]
      exact List.Pairwise.nil
    | true =>
      obtain ⟨closing, -, shape⟩ := emitted_of_closes opens closes
      rw [shape]
      exact List.pairwise_singleton _ _
  | true =>
    cases closes : closesRecently metric window participant with
    | false =>
      obtain ⟨opening, -, shape⟩ := emitted_of_opens opens closes
      rw [shape]
      exact List.pairwise_singleton _ _
    | true =>
      obtain ⟨opening, closing, isOpening, isClosing, shape⟩ := emitted_of_both opens closes
      rw [shape]
      exact List.pairwise_pair.2 (Metric.opening_le_closing consistent isOpening isClosing)

/-- A participant is counted from its opening until right before its closing. -/
theorem isCounted_iff {t : Instant} :
    isCounted metric t participant = true ↔
      ∃ opening, metric.opening? participant = some opening ∧ opening ≤ t ∧
        ∀ closing, metric.closing? participant = some closing → t < closing := by
  cases opens : metric.opening? participant with
  | none =>
    rw [isCounted, opens]
    constructor
    · intro counted
      cases counted
    · rintro ⟨opening, isOpening, -⟩
      cases isOpening
  | some opening =>
    rw [isCounted, opens, Metric.closing?_of_some opens, Participant.connectedAfter]
    cases participant.disconnectedAt with
    | none => simp
    | some closing => simp

theorem opensRecently_iff :
    opensRecently metric window participant = true ↔
      ∃ opening, metric.opening? participant = some opening ∧ window.isRecent opening = true :=
  Option.any_eq_true _ _

theorem closesRecently_iff :
    closesRecently metric window participant = true ↔
      ∃ closing, metric.closing? participant = some closing ∧ window.isRecent closing = true :=
  Option.any_eq_true _ _

theorem opensEarly_iff :
    opensEarly metric window participant = true ↔
      ∃ opening, metric.opening? participant = some opening ∧
        window.isRecent opening = true ∧ opening < window.effectiveStart := by
  simp only [opensEarly, Option.any_eq_true, Bool.and_eq_true, decide_eq_true_eq]

/-! ## The share of one participant -/

theorem prefix_singleton_iff {event : Event} {mine : List Event} :
    mine <+: [event] ↔ mine = [] ∨ mine = [event] := by
  rw [List.prefix_cons_iff]
  refine or_congr_right ⟨?_, ?_⟩
  · rintro ⟨none, rfl, isNone⟩
    rw [List.prefix_nil.1 isNone]
  · rintro rfl
    exact ⟨[], rfl, List.nil_prefix⟩

section Once

variable (consistent : participant.Consistent) (once : CountedOnce metric window participant)

include consistent once

/-- Where a closing is emitted, nothing is emitted early. -/
theorem not_isEarly_of_closes (closes : closesRecently metric window participant = true) :
    ∀ event ∈ emitted metric window participant, ¬ isEarly window event = true := by
  intro event member early
  have before : event.instant < window.effectiveStart := of_decide_eq_true early
  cases opens : opensRecently metric window participant with
  | false =>
    obtain ⟨closing, isClosing, shape⟩ := emitted_of_closes opens closes
    rw [shape, List.mem_singleton] at member
    subst member
    rcases once.entered closes with counted | opened
    · obtain ⟨opening, -, -, stillOpen⟩ := isCounted_iff.1 counted
      exact Std.lt_irrefl (Std.lt_trans before (stillOpen closing isClosing))
    · rw [opens] at opened
      cases opened
  | true =>
    obtain ⟨opening, closing, isOpening, isClosing, shape⟩ := emitted_of_both opens closes
    have notEarly : ¬ opening < window.effectiveStart := by
      intro opensBefore
      obtain ⟨other, isOther, recent⟩ := opensRecently_iff.1 opens
      rw [isOpening] at isOther
      cases isOther
      exact once.inTime ⟨opensEarly_iff.2 ⟨opening, isOpening, recent, opensBefore⟩, closes⟩
    have inOrder := Metric.opening_le_closing consistent isOpening isClosing
    rw [shape] at member
    rcases List.mem_cons.1 member with rfl | member
    · exact notEarly before
    · rw [List.mem_singleton.1 member] at before
      exact notEarly (Std.lt_of_le_of_lt inOrder before)

/-- What is emitted early opens. -/
theorem increase_of_isEarly {event : Event} (member : event ∈ emitted metric window participant)
    (early : isEarly window event = true) : event.tag = .increase := by
  obtain ⟨recent, ⟨-, increases⟩ | ⟨isClosing, -⟩⟩ := mem_emitted.1 member
  · exact increases
  · have closes : closesRecently metric window participant = true := by
      rw [closesRecently, isClosing, Option.any_some, recent]
    exact absurd early (not_isEarly_of_closes consistent once closes event member)

/-- After any of its events the share of a participant in the count is zero or one, and it is one
if an event was early. -/
theorem share_bounds {mine : List Event} (isPrefix : mine <+: emitted metric window participant) :
    (mine.countP (isEarly window) : Int) ≤
        (isCounted metric window.effectiveStart participant).toNat + total mine ∧
      (isCounted metric window.effectiveStart participant).toNat + total mine ≤ 1 := by
  have notEarly (closes : closesRecently metric window participant = true) :
      mine.countP (isEarly window) = 0 :=
    List.countP_eq_zero.2 fun event member =>
      not_isEarly_of_closes consistent once closes event (isPrefix.subset member)
  have notCounted (opens : opensRecently metric window participant = true) :
      isCounted metric window.effectiveStart participant = false := by
    rw [Bool.eq_false_iff]
    exact fun counted => once.notTwice ⟨counted, opens⟩
  cases opens : opensRecently metric window participant with
  | false =>
    cases closes : closesRecently metric window participant with
    | false =>
      -- Nothing is emitted, and the share stays what it is at the start.
      rw [emitted_of_neither opens closes] at isPrefix
      rw [List.prefix_nil.1 isPrefix, List.countP_nil, total_nil]
      have atMostOne := Bool.toNat_le (isCounted metric window.effectiveStart participant)
      omega
    | true =>
      -- What closes without having opened was counted before, and is not below zero afterwards.
      have counted : isCounted metric window.effectiveStart participant = true := by
        rcases once.entered closes with counted | opened
        · exact counted
        · rw [opens] at opened
          cases opened
      obtain ⟨closing, -, shape⟩ := emitted_of_closes opens closes
      rw [notEarly closes, counted]
      rw [shape] at isPrefix
      rcases prefix_singleton_iff.1 isPrefix with rfl | rfl
      · simp
      · simp [Tag.delta]
  | true =>
    rw [notCounted opens]
    cases closes : closesRecently metric window participant with
    | false =>
      -- The one opening may be early; it is counted from then on.
      obtain ⟨opening, -, shape⟩ := emitted_of_opens opens closes
      rw [shape] at isPrefix
      rcases prefix_singleton_iff.1 isPrefix with rfl | rfl
      · simp
      · have atMostOne := List.countP_le_length (p := isEarly window) (l := [⟨opening, .increase⟩])
        simp only [List.length_singleton, total_cons, total_nil, Tag.delta, Bool.toNat_false] at *
        omega
    | true =>
      -- With a closing behind it the opening is not early, and each of the three prefixes fits.
      obtain ⟨opening, closing, -, -, shape⟩ := emitted_of_both opens closes
      rw [notEarly closes]
      rw [shape] at isPrefix
      rcases List.prefix_cons_iff.1 isPrefix with rfl | ⟨rest, rfl, restPrefix⟩
      · simp
      · rcases prefix_singleton_iff.1 restPrefix with rfl | rfl
        · simp [Tag.delta]
        · simp [Tag.delta]

end Once

/-! ## When it is counted once -/

/-- An empty window counts everyone once, since nothing is recent in it. -/
theorem countedOnce_of_isEmpty (empty : window.isEmpty = true) (metric : Metric)
    (participant : Participant) : CountedOnce metric window participant := by
  have none (edge? : Option Instant) : edge?.any window.isRecent = false := by
    cases edge? with
    | none => rfl
    | some edge => exact Window.isRecent_of_isEmpty empty
  constructor
  · rintro ⟨-, opens⟩
    rw [opensRecently, none] at opens
    cases opens
  · intro closes
    rw [closesRecently, none] at closes
    cases closes
  · rintro ⟨-, closes⟩
    rw [closesRecently, none] at closes
    cases closes

/-- Where recent means not before the start, a participant is counted once unless one of its edges,
but not the other, lies on the very start. -/
theorem countedOnce_iff (consistent : participant.Consistent)
    (recency : ∀ edge ∈ metric.edges participant,
      (window.isRecent edge = true ↔ window.effectiveStart ≤ edge)) :
    CountedOnce metric window participant ↔
      (metric.opening? participant = some window.effectiveStart ↔
        metric.closing? participant = some window.effectiveStart) := by
  have openingRecent {opening : Instant} (isOpening : metric.opening? participant = some opening) :
      window.isRecent opening = true ↔ window.effectiveStart ≤ opening :=
    recency opening (Metric.mem_edges.2 (Or.inl isOpening))
  have closingRecent {closing : Instant} (isClosing : metric.closing? participant = some closing) :
      window.isRecent closing = true ↔ window.effectiveStart ≤ closing :=
    recency closing (Metric.mem_edges.2 (Or.inr isClosing))
  constructor
  · intro once
    constructor
    · intro onStart
      have opens := opensRecently_iff.2 ⟨_, onStart, (openingRecent onStart).2 (Std.le_refl _)⟩
      cases isClosing : metric.closing? participant with
      | none =>
        refine absurd ⟨isCounted_iff.2 ⟨_, onStart, Std.le_refl _, ?_⟩, opens⟩ once.notTwice
        intro closing isOther
        rw [isClosing] at isOther
        cases isOther
      | some closing =>
        have inOrder := Metric.opening_le_closing consistent onStart isClosing
        by_cases upTo : closing ≤ window.effectiveStart
        · rw [Std.le_antisymm upTo inOrder]
        · refine absurd ⟨isCounted_iff.2 ⟨_, onStart, Std.le_refl _, ?_⟩, opens⟩ once.notTwice
          intro other isOther
          rw [isClosing] at isOther
          cases isOther
          exact Std.not_le.1 upTo
    · intro onStart
      have closes := closesRecently_iff.2 ⟨_, onStart, (closingRecent onStart).2 (Std.le_refl _)⟩
      rcases once.entered closes with counted | opens
      · obtain ⟨opening, -, -, stillOpen⟩ := isCounted_iff.1 counted
        exact absurd (stillOpen _ onStart) Std.lt_irrefl
      · obtain ⟨opening, isOpening, recent⟩ := opensRecently_iff.1 opens
        have inOrder := Metric.opening_le_closing consistent isOpening onStart
        rw [isOpening, Std.le_antisymm inOrder ((openingRecent isOpening).1 recent)]
  · intro both
    constructor
    · rintro ⟨counted, opens⟩
      obtain ⟨opening, isOpening, upTo, stillOpen⟩ := isCounted_iff.1 counted
      obtain ⟨other, isOther, recent⟩ := opensRecently_iff.1 opens
      rw [isOpening] at isOther
      cases isOther
      have onStart := Std.le_antisymm upTo ((openingRecent isOpening).1 recent)
      rw [onStart] at isOpening
      exact Std.lt_irrefl (stillOpen _ (both.1 isOpening))
    · intro closes
      obtain ⟨closing, isClosing, recent⟩ := closesRecently_iff.1 closes
      have fromStart := (closingRecent isClosing).1 recent
      cases isOpening : metric.opening? participant with
      | none =>
        rw [Metric.closing?_of_none isOpening] at isClosing
        cases isClosing
      | some opening =>
        by_cases late : window.effectiveStart ≤ opening
        · exact Or.inr (opensRecently_iff.2 ⟨opening, isOpening, (openingRecent isOpening).2 late⟩)
        · have before := Std.not_le.1 late
          refine Or.inl (isCounted_iff.2 ⟨opening, isOpening, Std.le_of_lt before, ?_⟩)
          intro other isOther
          rw [isClosing] at isOther
          cases isOther
          refine Std.not_le.1 fun upTo => late ?_
          -- A closing on the very start has its opening there too.
          rw [Std.le_antisymm upTo fromStart] at isClosing
          have onStart := both.2 isClosing
          rw [isOpening] at onStart
          cases onStart
          exact Std.le_refl _
    · rintro ⟨early, -⟩
      obtain ⟨opening, isOpening, recent, before⟩ := opensEarly_iff.1 early
      exact Std.not_lt.2 ((openingRecent isOpening).1 recent) before

end Series

end SwarmChart
