import SwarmChart.Json
import SwarmChart.Series.Registrations
import SwarmChart.Tracker.Ingest
import SwarmChart.Window.Length

/-!
# The dashboard

Everything that the charts show for one window: the activity and completion series of each item and
the number of items over time. `Dashboard.build` makes it from items and the present instant, and
fails only on a window length that is not finite. `Dashboard.document` is the JSON document that
the charts read.
-/

set_option autoImplicit false

namespace SwarmChart

/-- What the charts show of one item. -/
structure ItemSeries where
  name : String
  seeders : Nat
  leechers : Nat
  active : List Series.Point
  completed : List Series.Point
  deriving Repr

/-- What the charts show for one window. -/
structure Dashboard where
  window : Window
  /-- The length of the window as it was asked for. -/
  seconds : Float
  items : List ItemSeries
  itemCount : List Series.Point
  refusals : List Tracker.Refusal
  deriving Repr

/-- The series of one item over a window. -/
def ItemSeries.ofItem (window : Window) (item : Tracker.Item) : ItemSeries :=
  ⟨item.name, item.seeders, item.leechers, Series.ofSwarm item.participants .activity window,
    Series.ofSwarm item.participants .completion window⟩

namespace Dashboard

/-- The dashboard of the items for the last `seconds` seconds before `now`. -/
def build (items : List Tracker.Item) (now : Instant) (seconds : Float) :
    Except Window.InvalidLength Dashboard :=
  (Window.spanOfSeconds seconds).map fun span =>
    let window := Window.trailing now span
    ⟨window, seconds, items.map (ItemSeries.ofItem window),
      Series.registrations (items.map Tracker.Item.registeredAt) window, []⟩

/-- The dashboard of everything ingested, with what was refused. -/
def ofIngested (ingested : Tracker.Ingested) (now : Instant) (seconds : Float) :
    Except Window.InvalidLength Dashboard :=
  (build ingested.items now seconds).map fun dashboard =>
    { dashboard with refusals := ingested.refusals }

/-- The names of the items. -/
def labels (dashboard : Dashboard) : List String := dashboard.items.map ItemSeries.name

/-- The seeders of the items. -/
def seeders (dashboard : Dashboard) : List Nat := dashboard.items.map ItemSeries.seeders

/-- The leechers of the items. -/
def leechers (dashboard : Dashboard) : List Nat := dashboard.items.map ItemSeries.leechers

end Dashboard

/-! ## Documents -/

/-- The document of a list. -/
def Json.ofList {α : Type} (document : α → Json) (values : List α) : Json :=
  .arr (values.map document)

/-- The document of an instant. -/
def Instant.document (instant : Instant) : Json := .str (Timestamp.write instant)

/-- The document of a count. -/
def Json.ofCount (count : Nat) : Json := .int count

/-- The document of a point. -/
def Series.Point.document (point : Series.Point) : Json :=
  .obj [("x", point.instant.document), ("y", .int point.count)]

/-- The document of an item's series. -/
def ItemSeries.document (item : ItemSeries) : Json :=
  .obj [("name", .str item.name), ("seeders", Json.ofCount item.seeders),
    ("leechers", Json.ofCount item.leechers),
    ("active", Json.ofList Series.Point.document item.active),
    ("completed", Json.ofList Series.Point.document item.completed)]

/-- The document of a refusal. -/
def Tracker.Refusal.document (refusal : Tracker.Refusal) : Json :=
  let value :=
    match refusal.value? with
    | some value => [("value", Json.str value)]
    | none => []
  .obj ([("kind", Json.str refusal.kind), ("item", Json.str refusal.item),
    ("field", Json.str refusal.field.key)] ++ value)

/-- The document of a window and its length. -/
def Window.document (window : Window) (seconds : Float) : Json :=
  .obj [("start", window.start.document), ("end", window.finish.document),
    ("seconds", .float seconds)]

/-- The document of a dashboard. Refusals are left out when there are none. -/
def Dashboard.document (dashboard : Dashboard) : Json :=
  let rejected :=
    if dashboard.refusals.isEmpty then []
    else [("rejected", Json.ofList Tracker.Refusal.document dashboard.refusals)]
  .obj ([("window", dashboard.window.document dashboard.seconds),
    ("labels", Json.ofList Json.str dashboard.labels),
    ("seeders", Json.ofList Json.ofCount dashboard.seeders),
    ("leechers", Json.ofList Json.ofCount dashboard.leechers),
    ("items", Json.ofList ItemSeries.document dashboard.items),
    ("item_count", Json.ofList Series.Point.document dashboard.itemCount)] ++ rejected)

end SwarmChart
