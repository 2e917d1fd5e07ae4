import SwarmChart.Json.Mismatch

/-!
# Records of the data file

The tracker keeps one record for each item and, inside it, one for each peer. A record is written
either as an object, in which unknown members are ignored, or as a list of its fields in their
order, from which trailing fields may be missing. The fields are read one after the other, those of
an object in the order of their keys, and the first one of a wrong kind is the refusal.

Instants stay unread here: a field that holds one keeps whatever value it has.
-/

set_option autoImplicit false

namespace SwarmChart.Tracker

/-- The record of an item. -/
structure ItemRecord where
  name : Option String
  infoHash : Option String
  timestamp : Option Json
  seeders : Nat
  leechers : Nat
  peers : List Json
  deriving Inhabited, Repr

/-- The record of a peer. -/
structure PeerRecord where
  connection : Option Json
  disconnection : Option Json
  completion : Option Json
  deriving Inhabited, Repr

namespace ItemRecord

/-- A record of which no field is given. -/
def blank : ItemRecord := ⟨none, none, none, 0, 0, []⟩

/-- The keys of the fields in their order. -/
def keys : List String := ["name", "info_hash", "timestamp", "seeders", "leechers", "peers"]

/-- The record with the field of a key set to what a value holds. -/
def set (record : ItemRecord) (key : String) (value : Json) : Except Json.Mismatch ItemRecord :=
  if key = "name" then (Json.orNull Json.asText value).map fun name => { record with name }
  else if key = "info_hash" then
    (Json.orNull Json.asText value).map fun infoHash => { record with infoHash }
  else if key = "timestamp" then .ok { record with timestamp := value.nonNull }
  else if key = "seeders" then (Json.asCount value).map fun seeders => { record with seeders }
  else if key = "leechers" then (Json.asCount value).map fun leechers => { record with leechers }
  else if key = "peers" then (Json.asList value).map fun peers => { record with peers }
  else .ok record

/-- The record with several fields set, one after the other. -/
def setAll (record : ItemRecord) (fields : List (String × Json)) :
    Except Json.Mismatch ItemRecord :=
  fields.foldlM (fun record (key, value) => record.set key value) record

/-- The record that a value is. -/
def ofJson : Json → Except Json.Mismatch ItemRecord
  | .obj members => blank.setAll members
  | .arr items => do
    let record ← blank.setAll (keys.zip items)
    -- A field of a wrong kind is reported before the length.
    if items.length ≤ keys.length then .ok record else .error (.tooLong items.length)
  | value => .error (.wrongKind value .itemRecord)

/-- What the item is called: its name, or else its hash. -/
def label (record : ItemRecord) : Option String := record.name.or record.infoHash

end ItemRecord

namespace PeerRecord

/-- A record of which no field is given. -/
def blank : PeerRecord := ⟨none, none, none⟩

/-- The keys of the fields in their order. -/
def keys : List String := ["peer_id", "dt_connection", "dt_disconnection", "dt_completion"]

/-- The record with the field of a key set to what a value holds. -/
def set (record : PeerRecord) (key : String) (value : Json) : PeerRecord :=
  if key = "dt_connection" then { record with connection := value.nonNull }
  else if key = "dt_disconnection" then { record with disconnection := value.nonNull }
  else if key = "dt_completion" then { record with completion := value.nonNull }
  else record

/-- The record with several fields set, one after the other. -/
def setAll (record : PeerRecord) (fields : List (String × Json)) : PeerRecord :=
  fields.foldl (fun record (key, value) => record.set key value) record

/-- The record that a value is, if it is one. -/
def ofJson? : Json → Option PeerRecord
  | .obj members => some (blank.setAll members)
  | .arr items =>
    if items.length ≤ keys.length then some (blank.setAll (keys.zip items)) else none
  | _ => none

end PeerRecord

end SwarmChart.Tracker
