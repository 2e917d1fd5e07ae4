import SwarmChart.Dashboard
import SwarmChart.Proofs.Tracker.Entrywise
import SwarmChart.Proofs.Tracker.Fields

/-!
# Members that nothing is read from

An entry has more members than its item needs, and a peer is written with who it is and where it
came from. `entryCore` and `peerCore` leave out of an object every member of a key that is not read.
What a value is refused for, what it is called and what it becomes are found in its core
(`readItem_entryCore`), so entries with the same core cannot be told apart by what comes of them
(`ingest_of_core_eq`).
-/

set_option autoImplicit false

namespace SwarmChart.Tracker

/-- The keys of the members that are read of a peer. -/
def PeerRecord.readKeys : List String := ["dt_connection", "dt_disconnection", "dt_completion"]

/-- The field has one of the keys. -/
def hasKeyIn (keys : List String) (field : String × Json) : Bool := keys.contains field.1

/-- The peer without the members that are not read. -/
def peerCore : Json → Json
  | .obj members => .obj (members.filter (hasKeyIn PeerRecord.readKeys))
  | value => value

/-- The value of an item's field without the members that are not read. Only in peers are there any
such members. -/
def fieldCore (key : String) (value : Json) : Json :=
  if key = "peers" then
    match value with
    | .arr peers => .arr (peers.map peerCore)
    | value => value
  else value

/-- The fields of an item without those that are not read. -/
def fieldsCore (fields : List (String × Json)) : List (String × Json) :=
  (fields.filter (hasKeyIn ItemRecord.keys)).map fun field =>
    (field.1, fieldCore field.1 field.2)

/-- The entry without the members that are not read, neither of itself nor of its peers. -/
def entryCore : Json → Json
  | .obj members => .obj (fieldsCore members)
  | .arr items =>
    .arr (List.zipWith fieldCore ItemRecord.keys items ++ items.drop ItemRecord.keys.length)
  | value => value

/-! ## Values by their keys -/

theorem lookup_filter_hasKeyIn {key : String} {keys : List String} (known : key ∈ keys)
    (fields : List (String × Json)) :
    (fields.filter (hasKeyIn keys)).lookup key = fields.lookup key := by
  induction fields with
  | nil => rfl
  | cons field rest ih =>
    obtain ⟨other, value⟩ := field
    by_cases kept : hasKeyIn keys (other, value)
    · rw [List.filter_cons_of_pos kept, List.lookup_cons, List.lookup_cons, ih]
    -- A field that is left out has another key.
    · have differs : (key == other) = false := by
        rw [beq_eq_false_iff_ne]
        rintro rfl
        exact kept (List.contains_iff_mem.2 known)
      rw [List.filter_cons_of_neg kept, List.lookup_cons, differs, ih]

theorem last?_filter_hasKeyIn {key : String} {keys : List String} (known : key ∈ keys)
    (fields : List (String × Json)) :
    last? key (fields.filter (hasKeyIn keys)) = last? key fields := by
  rw [last?, ← List.filter_reverse, lookup_filter_hasKeyIn known, last?]

theorem lookup_map_value (change : String → Json → Json) (key : String)
    (fields : List (String × Json)) :
    (fields.map fun field => (field.1, change field.1 field.2)).lookup key =
      (fields.lookup key).map (change key) := by
  induction fields with
  | nil => rfl
  | cons field rest ih =>
    obtain ⟨other, value⟩ := field
    rw [List.map_cons, List.lookup_cons, List.lookup_cons, ih]
    by_cases same : key = other
    · subst same
      simp
    · rw [beq_false_of_ne same]

theorem lookup_fieldsCore {key : String} (known : key ∈ ItemRecord.keys)
    (fields : List (String × Json)) :
    (fieldsCore fields).lookup key = (fields.lookup key).map (fieldCore key) := by
  rw [fieldsCore, lookup_map_value, lookup_filter_hasKeyIn known]

theorem last?_fieldsCore {key : String} (known : key ∈ ItemRecord.keys)
    (fields : List (String × Json)) :
    last? key (fieldsCore fields) = (last? key fields).map (fieldCore key) := by
  have reversed : (fieldsCore fields).reverse = fieldsCore fields.reverse := by
    rw [fieldsCore, fieldsCore, ← List.map_reverse, List.filter_reverse]
  rw [last?, reversed, lookup_fieldsCore known, last?]

theorem fieldCore_of_ne {key : String} (other : key ≠ "peers") : fieldCore key = id := by
  funext value
  exact if_neg other

/-! ## Peers -/

/-- A peer gives the same record without its unknown members. -/
theorem given_peerCore (peer : Json) :
    PeerRecord.given (peerCore peer) = PeerRecord.given peer := by
  cases peer with
  | obj members =>
    have connection : "dt_connection" ∈ PeerRecord.readKeys := by decide
    have disconnection : "dt_disconnection" ∈ PeerRecord.readKeys := by decide
    have completion : "dt_completion" ∈ PeerRecord.readKeys := by decide
    simp only [PeerRecord.given, peerCore, fieldsOf, PeerRecord.ofFields,
      last?_filter_hasKeyIn connection, last?_filter_hasKeyIn disconnection,
      last?_filter_hasKeyIn completion]
  | _ => rfl

/-- An object is always a record, so no peer that loses a member is shown in a refusal. -/
theorem readPeer_peerCore (item : String) (peer : Json) :
    readPeer item (peerCore peer) = readPeer item peer := by
  cases peer with
  | obj members =>
    have same := given_peerCore (.obj members)
    rw [readPeer, readPeer, PeerRecord.ofJson?_eq, PeerRecord.ofJson?_eq, same]
    rfl
  | _ => rfl

/-- The peers are read the same without their unknown members. -/
theorem readPeers_map_peerCore (item : String) (peers : List Json) :
    readPeers item (peers.map peerCore) = readPeers item peers := by
  rw [readPeers, readPeers, List.mapM_map]
  congr 1
  funext peer
  exact readPeer_peerCore item peer

/-! ## Items -/

/-- The record with the cores of its peers. -/
def ItemRecord.withPeerCores (record : ItemRecord) : ItemRecord :=
  { record with peers := record.peers.map peerCore }

theorem fieldsOf_arr_core (keys : List String) (items : List Json) :
    keys.zip (List.zipWith fieldCore keys items ++ items.drop keys.length) =
      (keys.zip items).map fun field => (field.1, fieldCore field.1 field.2) := by
  induction keys generalizing items with
  | nil => rfl
  | cons key keys ih =>
    cases items with
    | nil => rfl
    | cons item items =>
      rw [List.zipWith_cons_cons, List.length_cons, List.drop_succ_cons, List.cons_append,
        List.zip_cons_cons, List.zip_cons_cons, List.map_cons, ih]

theorem filter_zip_keys (items : List Json) :
    (ItemRecord.keys.zip items).filter (hasKeyIn ItemRecord.keys) = ItemRecord.keys.zip items := by
  apply List.filter_eq_self.2
  intro field among
  exact List.contains_iff_mem.2 (List.of_mem_zip among).1

/-- The fields of the core of an entry are the core of its fields, in both forms of an entry. -/
theorem fieldsOf_entryCore (entry : Json) :
    fieldsOf ItemRecord.keys (entryCore entry) = fieldsCore (fieldsOf ItemRecord.keys entry) := by
  cases entry with
  | obj members => rfl
  | arr items =>
    rw [entryCore, fieldsOf, fieldsOf, fieldsOf_arr_core, fieldsCore, filter_zip_keys]
  | _ => rfl

theorem map_fieldCore_of_ne {key : String} (other : key ≠ "peers") (value? : Option Json) :
    value?.map (fieldCore key) = value? := by
  rw [fieldCore_of_ne other, Option.map_id_fun, id]

theorem items?_fieldCore (value : Json) :
    (fieldCore "peers" value).items? = value.items?.map (List.map peerCore) := by
  cases value <;> rfl

/-- The record of the core has the cores of the peers and all else alike. -/
theorem ofFields_fieldsCore (fields : List (String × Json)) :
    ItemRecord.ofFields (fieldsCore fields) = (ItemRecord.ofFields fields).withPeerCores := by
  have peers : ((last? "peers" (fieldsCore fields)).bind Json.items?).getD [] =
      (((last? "peers" fields).bind Json.items?).getD []).map peerCore := by
    rw [last?_fieldsCore (by decide)]
    cases last? "peers" fields with
    | none => rfl
    | some value =>
      rw [Option.map_some, Option.bind_some, Option.bind_some, items?_fieldCore]
      cases value.items? <;> rfl
  have others : ∀ key ∈ ItemRecord.keys, key ≠ "peers" →
      last? key (fieldsCore fields) = last? key fields := by
    intro key known other
    rw [last?_fieldsCore known, map_fieldCore_of_ne other]
  rw [ItemRecord.ofFields, peers, others "name" (by decide) (by decide),
    others "info_hash" (by decide) (by decide), others "timestamp" (by decide) (by decide),
    others "seeders" (by decide) (by decide), others "leechers" (by decide) (by decide)]
  rfl

theorem misfit?_fieldCore (key : String) (value : Json) :
    (ItemRecord.kindOf key).misfit? (fieldCore key value) =
      (ItemRecord.kindOf key).misfit? value := by
  by_cases isPeers : key = "peers"
  · subst isPeers
    cases value <;> rfl
  · rw [fieldCore_of_ne isPeers, id]

/-- A field of an unknown key fits whatever its value is. -/
theorem misfit?_of_not_mem {key : String} (unknown : key ∉ ItemRecord.keys) (value : Json) :
    (ItemRecord.kindOf key).misfit? value = none := by
  simp only [ItemRecord.keys, List.mem_cons, List.not_mem_nil, not_or, or_false] at unknown
  simp [ItemRecord.kindOf, unknown, FieldKind.misfit?]

theorem firstMisfit?_fieldsCore (fields : List (String × Json)) :
    ItemRecord.firstMisfit? (fieldsCore fields) = ItemRecord.firstMisfit? fields := by
  rw [ItemRecord.firstMisfit?, ItemRecord.firstMisfit?]
  induction fields with
  | nil => rfl
  | cons field rest ih =>
    obtain ⟨key, value⟩ := field
    by_cases known : hasKeyIn ItemRecord.keys (key, value)
    · have kept : fieldsCore ((key, value) :: rest) =
          (key, fieldCore key value) :: fieldsCore rest := by
        rw [fieldsCore, List.filter_cons_of_pos known]
        rfl
      rw [kept, List.findSome?_cons, List.findSome?_cons, misfit?_fieldCore, ih]
    · have left : fieldsCore ((key, value) :: rest) = fieldsCore rest := by
        rw [fieldsCore, List.filter_cons_of_neg known]
        rfl
      have fits := misfit?_of_not_mem (fun among => known (List.contains_iff_mem.2 among)) value
      rw [left, ih, List.findSome?_cons, fits]

/-- An entry without its unknown members mismatches its record in the same way. -/
theorem mismatch?_entryCore (entry : Json) :
    ItemRecord.mismatch? (entryCore entry) = ItemRecord.mismatch? entry := by
  cases entry with
  | obj members => exact firstMisfit?_fieldsCore members
  | arr items =>
    have fields := fieldsOf_entryCore (.arr items)
    have length : (List.zipWith fieldCore ItemRecord.keys items ++
        items.drop ItemRecord.keys.length).length = items.length := by
      rw [List.length_append, List.length_zipWith, List.length_drop]
      omega
    simp only [entryCore, fieldsOf] at fields
    rw [entryCore, ItemRecord.mismatch?, fields, firstMisfit?_fieldsCore, length,
      ItemRecord.mismatch?]
  | _ => rfl

/-- An entry gives the same record without its unknown members, up to those of its peers. -/
theorem given_entryCore (entry : Json) :
    ItemRecord.given (entryCore entry) = (ItemRecord.given entry).withPeerCores := by
  rw [ItemRecord.given, fieldsOf_entryCore, ofFields_fieldsCore, ItemRecord.given]

theorem member?_entryCore {key : String} (known : key ∈ ItemRecord.keys) (other : key ≠ "peers")
    (entry : Json) : (entryCore entry).member? key = entry.member? key := by
  cases entry with
  | obj members =>
    exact (lookup_fieldsCore known members).trans (map_fieldCore_of_ne other _)
  | _ => rfl

/-- An entry keeps its label without its unknown members. -/
theorem ownLabel?_entryCore (entry : Json) : ownLabel? (entryCore entry) = ownLabel? entry := by
  have name : (entryCore entry).member? "name" = entry.member? "name" :=
    member?_entryCore (by decide) (by decide) entry
  have hash : (entryCore entry).member? "info_hash" = entry.member? "info_hash" :=
    member?_entryCore (by decide) (by decide) entry
  rw [ownLabel?, name, hash, ownLabel?]

/-! ## Ingestion -/

/-- Unknown members of peers do not change the item that is made. -/
theorem readLabelled_withPeerCores (record : ItemRecord) (name : String) (timestamp : Json) :
    readLabelled record.withPeerCores name timestamp = readLabelled record name timestamp := by
  have peers : readPeers name record.withPeerCores.peers = readPeers name record.peers :=
    readPeers_map_peerCore name record.peers
  rw [readLabelled, peers]
  rfl

/-- An entry is read from its core. -/
theorem readItem_entryCore (index : Nat) (entry : Json) :
    readItem index (entryCore entry) = readItem index entry := by
  rw [readItem_eq, readItem_eq, ItemRecord.ofJson_eq, ItemRecord.ofJson_eq, mismatch?_entryCore,
    given_entryCore, fallbackLabel_eq, fallbackLabel_eq, ownLabel?_entryCore]
  cases ItemRecord.mismatch? entry with
  | some mismatch => rfl
  | none =>
    have label : (ItemRecord.given entry).withPeerCores.label =
        (ItemRecord.given entry).label := rfl
    have timestamp : (ItemRecord.given entry).withPeerCores.timestamp =
        (ItemRecord.given entry).timestamp := rfl
    simp only [checked, label, timestamp, readLabelled_withPeerCores]

/-- The verdict on an entry is that on its core. -/
theorem judge_entryCore (index : Nat) (entry : Json) :
    judge index (entryCore entry) = judge index entry := by
  rw [judge, readItem_entryCore, judge]

/-- So ingesting looks at the cores of the entries alone. -/
theorem ingest_map_entryCore (entries : List Json) :
    ingest (entries.map entryCore) = ingest entries := by
  have verdicts : (entries.map entryCore).mapIdx judge = entries.mapIdx judge := by
    apply List.mapIdx_eq_iff.2
    intro index
    rw [List.getElem?_mapIdx, List.getElem?_map, Option.map_map]
    congr 1
    funext entry
    exact (judge_entryCore index entry).symm
  rw [ingest, verdicts, ingest]

/-- Entries that differ only in members that are not read, of their own or of their peers, give the
same items and the same refusals, and so the same dashboard at every instant and for every length of
its window. -/
theorem ingest_of_core_eq {entries others : List Json}
    (same : entries.map entryCore = others.map entryCore) :
    ingest entries = ingest others ∧
      ∀ now seconds, Dashboard.ofIngested (ingest entries) now seconds =
        Dashboard.ofIngested (ingest others) now seconds := by
  have ingested : ingest entries = ingest others := by
    rw [← ingest_map_entryCore entries, same, ingest_map_entryCore]
  refine ⟨ingested, ?_⟩
  intro now seconds
  rw [ingested]

/-- The same faulty peer under two identities, one of them with its address, in an entry with and
without a comment. -/
theorem ingest_of_core_eq_of_two_identities :
    ingest [.obj [("comment", .arr []), ("name", .str "a"), ("peers", .arr [
        .obj [("dt_connection", .str "noon"), ("peer_id", .str "-AR1234-")]]),
        ("timestamp", .str "2022-06-10T10:00:00")]] =
      ingest [.obj [("name", .str "a"), ("peers", .arr [
        .obj [("completed", .bool true), ("dt_connection", .str "noon"), ("peer_id", .null),
          ("peer_ip", .str "127.0.0.1")]]),
        ("timestamp", .str "2022-06-10T10:00:00")]] ∧
    (ingest [.obj [("name", .str "a"), ("peers", .arr [
        .obj [("completed", .bool true), ("dt_connection", .str "noon"), ("peer_id", .null),
          ("peer_ip", .str "127.0.0.1")]]),
        ("timestamp", .str "2022-06-10T10:00:00")]]).refusals =
      [.unreadable "a" .connection "noon"] :=
  ⟨(ingest_of_core_eq rfl).1, rfl⟩

end SwarmChart.Tracker
