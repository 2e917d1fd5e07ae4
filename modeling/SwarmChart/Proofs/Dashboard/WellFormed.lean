import Mathlib.Data.List.Forall2
import SwarmChart.Dashboard
import SwarmChart.Proofs.Decimal.Finite
import SwarmChart.Proofs.Series.Registrations
import SwarmChart.Proofs.Series.Shape

/-!
# The shape of a dashboard

A dashboard can be made of any items at any instant, as long as the length of its window is finite,
and it is then well formed (`Dashboard.build_wellFormed`): its lists go through the items in their
order, and its series have the shape that the charts rely on. A length that is not finite is the
only one that is refused.
-/

set_option autoImplicit false

namespace SwarmChart.Dashboard

open Series (Shapely Registered)

/-- The series of the item over the window, under the item's own name and numbers. -/
structure Describes (window : Window) (item : Tracker.Item) (series : ItemSeries) : Prop where
  name : series.name = item.name
  seeders : series.seeders = item.seeders
  leechers : series.leechers = item.leechers
  active : Shapely item.participants .activity window series.active
  completed : Shapely item.participants .completion window series.completed

/-- The dashboard of the items for the last `seconds` seconds before `now`, in the shape that the
charts rely on. -/
structure WellFormed (items : List Tracker.Item) (now : Instant) (seconds : Float)
    (dashboard : Dashboard) : Prop where
  window : ∃ span, Window.spanOfSeconds seconds = .ok span ∧
    dashboard.window = Window.trailing now span
  labels : dashboard.labels = items.map Tracker.Item.name
  seeders : dashboard.seeders = items.map Tracker.Item.seeders
  leechers : dashboard.leechers = items.map Tracker.Item.leechers
  series : List.Forall₂ (Describes dashboard.window) items dashboard.items
  itemCount : Registered items.length dashboard.window dashboard.itemCount

variable {items : List Tracker.Item} {now : Instant} {seconds : Float}

theorem describes_ofItem (window : Window) (item : Tracker.Item) :
    Describes window item (ItemSeries.ofItem window item) where
  name := rfl
  seeders := rfl
  leechers := rfl
  active := Series.shapely_ofSwarm item.participants .activity window
  completed := Series.shapely_ofSwarm item.participants .completion window

/-- The series made of all items describe them one by one. -/
theorem forall₂_describes_map (window : Window) (items : List Tracker.Item) :
    List.Forall₂ (Describes window) items (items.map (ItemSeries.ofItem window)) := by
  induction items with
  | nil => exact .nil
  | cons item items ih => exact .cons (describes_ofItem window item) ih

theorem registered_registeredAt (window : Window) (items : List Tracker.Item) :
    Registered items.length window
      (Series.registrations (items.map Tracker.Item.registeredAt) window) := by
  have counted := Series.registered_registrations (items.map Tracker.Item.registeredAt) window
  rwa [List.length_map] at counted

/-- A number of seconds is the length of a window exactly if it is finite. -/
theorem spanOfSeconds_eq (seconds : Float) :
    Window.spanOfSeconds seconds =
      if seconds.isFinite then .ok (Window.spanOfMillis (seconds * 1000))
      else .error ⟨seconds⟩ := by
  rw [Window.spanOfSeconds, Decimal.Binary.isFinite_ofFloat]

/-- What is made of items over the window of a span is well formed. -/
theorem exists_build_eq_ok {span : Span} (length : Window.spanOfSeconds seconds = .ok span) :
    ∃ dashboard, build items now seconds = .ok dashboard ∧
      WellFormed items now seconds dashboard := by
  refine ⟨_, by rw [build, length]; rfl, ?_⟩
  constructor
  case window => exact ⟨span, length, rfl⟩
  case labels => exact List.map_map
  case seeders => exact List.map_map
  case leechers => exact List.map_map
  case series => exact forall₂_describes_map _ items
  case itemCount => exact registered_registeredAt _ items

/-- A dashboard is made of all items, at all instants and for all finite lengths, and for no
others. -/
theorem build_wellFormed (items : List Tracker.Item) (now : Instant) (seconds : Float) :
    (seconds.isFinite = true → ∃ dashboard, build items now seconds = .ok dashboard ∧
      WellFormed items now seconds dashboard) ∧
    (seconds.isNaN = true ∨ seconds.isInf = true →
      build items now seconds = .error ⟨seconds⟩) := by
  constructor
  · intro finite
    apply exists_build_eq_ok
    rw [spanOfSeconds_eq, if_pos finite]
  · intro notFinite
    have refused := (Decimal.isFinite_eq_false_iff seconds).2 notFinite
    rw [build, spanOfSeconds_eq, refused]
    rfl

/-- An item with one participant who came and went and another who completed, over the hour before
noon, and the same item over what is no number and over the negative infinity. -/
theorem build_wellFormed_within_hour :
    let alpha : Tracker.Item := ⟨"alpha", 2, 1, ⟨1654858800, 0⟩,
      [⟨⟨1654855200, 0⟩, some ⟨1654860600, 0⟩, none⟩,
        ⟨⟨1654859700, 0⟩, none, some ⟨1654861500, 0⟩⟩]⟩
    let now : Instant := ⟨1654862400, 0⟩
    let endless := Float.ofBits 0xFFF0000000000000
    (∃ dashboard, build [alpha] now 3600 = .ok dashboard ∧
        WellFormed [alpha] now 3600 dashboard) ∧
      build [alpha] now Decimal.notANumber = .error ⟨Decimal.notANumber⟩ ∧
      build [alpha] now endless = .error ⟨endless⟩ := by
  intro alpha now endless
  have isInf : (Float.ofBits 0xFFF0000000000000).isInf = true := rfl
  refine ⟨?_, ?_, ?_⟩
  · exact (build_wellFormed [alpha] now 3600).1 (by decide)
  · exact (build_wellFormed [alpha] now Decimal.notANumber).2 (Or.inl rfl)
  · exact (build_wellFormed [alpha] now endless).2 (Or.inr isInf)

end SwarmChart.Dashboard
