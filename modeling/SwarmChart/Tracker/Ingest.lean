import SwarmChart.Participant
import SwarmChart.Timestamp
import SwarmChart.Tracker.Record
import SwarmChart.Tracker.Refusal

/-!
# From records to items

Each entry of the data file is judged on its own (`judge`): either it becomes one item, and each of
its peers that never connected is refused, or it becomes no item and is refused for the first thing
found wrong with it. `ingest` puts the verdicts together in the order of the entries, so one bad
entry never takes another one with it. The position of an entry only serves to name it where it
has no name of its own.
-/

set_option autoImplicit false

namespace SwarmChart.Tracker

/-- An item with the history of its participants. -/
structure Item where
  name : String
  seeders : Nat
  leechers : Nat
  registeredAt : Instant
  participants : List Participant
  deriving Repr

/-- What was taken over from the data file and what was not. -/
structure Ingested where
  items : List Item
  refusals : List Refusal
  deriving Repr

/-- What a refusal calls an entry that cannot be named by its record. -/
def fallbackLabel (index : Nat) (entry : Json) : String :=
  let named := (entry.member? "name").bind Json.text?
  let hashed := (entry.member? "info_hash").bind Json.text?
  (named.or hashed).getD ("#" ++ String.ofList (Decimal.digits index))

/-- A value as a refusal shows it: a text as it is and anything else in its compact form. -/
def echo : Json → String
  | .str text => text
  | value => value.write

/-- The instant that a field writes. -/
def readInstant (item : String) (field : Field) (value : Json) : Except Refusal Instant :=
  match value.text?.bind Timestamp.read with
  | some instant => .ok instant
  | none => .error (.unreadable item field (echo value))

/-- The instant that an optional field writes. -/
def readOptional (item : String) (field : Field) :
    Option Json → Except Refusal (Option Instant)
  | none => .ok none
  | some value => (readInstant item field value).map some

/-- The participant that a peer's record describes, or none if it never connected. Its other
instants are not looked at then. -/
def participant? (item : String) (record : PeerRecord) : Except Refusal (Option Participant) :=
  match record.connection with
  | none => .ok none
  | some connection => do
    -- The first instant that cannot be read is the one reported.
    let connectedAt ← readInstant item .connection connection
    let disconnectedAt ← readOptional item .disconnection record.disconnection
    let completedAt ← readOptional item .completion record.completion
    .ok (some ⟨connectedAt, disconnectedAt, completedAt⟩)

/-- What a value in the list of peers becomes. -/
def readPeer (item : String) (value : Json) : Except Refusal (Option Participant) :=
  match PeerRecord.ofJson? value with
  | none => .error (.unreadable item .peers value.write)
  | some record => participant? item record

/-- What has become of the peers, in their order: a participant, or nothing for one that never
connected. -/
def readPeers (item : String) (peers : List Json) : Except Refusal (List (Option Participant)) :=
  peers.mapM (readPeer item)

/-- The verdict on one entry. -/
inductive Verdict where
  /-- The entry becomes an item, and `absent` of its peers never connected. -/
  | accepted (item : Item) (absent : Nat)
  | rejected (refusal : Refusal)
  deriving Repr

/-- The item that a record describes and the number of its peers that never connected. -/
def readItem (index : Nat) (entry : Json) : Except Refusal (Item × Nat) := do
  let record ←
    match ItemRecord.ofJson entry with
    | .ok record => .ok record
    | .error mismatch =>
      .error (.unreadable (fallbackLabel index entry) .record mismatch.message)
  let name ←
    match record.label with
    | some name => .ok name
    | none => .error (.itemWithout (fallbackLabel index entry) .name)
  let timestamp ←
    match record.timestamp with
    | some timestamp => .ok timestamp
    | none => .error (.itemWithout name .timestamp)
  let registeredAt ← readInstant name .timestamp timestamp
  let peers ← readPeers name record.peers
  .ok (⟨name, record.seeders, record.leechers, registeredAt, peers.filterMap id⟩,
    peers.countP Option.isNone)

/-- Judges the entry at a position. -/
def judge (index : Nat) (entry : Json) : Verdict :=
  match readItem index entry with
  | .ok (item, absent) => .accepted item absent
  | .error refusal => .rejected refusal

namespace Verdict

/-- The item that comes of an entry. -/
def items : Verdict → List Item
  | accepted item _ => [item]
  | rejected _ => []

/-- The refusals that come of an entry. -/
def refusals : Verdict → List Refusal
  | accepted item absent => List.replicate absent (.peerWithout item.name .connection)
  | rejected refusal => [refusal]

end Verdict

/-- The items and refusals that come of all entries. -/
def ingest (entries : List Json) : Ingested :=
  let verdicts := entries.mapIdx judge
  ⟨verdicts.flatMap Verdict.items, verdicts.flatMap Verdict.refusals⟩

end SwarmChart.Tracker
