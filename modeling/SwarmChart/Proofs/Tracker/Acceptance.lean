import Mathlib.Tactic.MkIffOfInductiveProp
import SwarmChart.Proofs.Tracker.Entrywise
import SwarmChart.Proofs.Tracker.Fields

/-!
# Acceptance of entries

Which entries become items is said here twice. `Acceptable` says what a good entry is, without any
order. `checks` lists everything that an entry is checked for in the order in which a refusal is
looked for, each check with the refusal it gives. The reader of entries refuses with the first fault
of that list (`refusal?_readItem`), the list is free of faults for good entries only
(`firstFault?_checks_eq_none_iff`), and an item carries what its entry gives
(`carries_of_readItem`).

A field that holds an instant is `Readable` if its value is a text that writes one. The fields of a
peer without a connection are never looked at.
-/

set_option autoImplicit false

namespace SwarmChart.Tracker

/-! ## Good entries -/

/-- The value is a text that writes the instant. -/
def Says (value : Json) (instant : Instant) : Prop :=
  ∃ text, value = .str text ∧ Timestamp.read text = some instant

/-- The value is a text that writes an instant. -/
def Readable (value : Json) : Prop :=
  ∃ instant, Says value instant

theorem says_iff (value : Json) (instant : Instant) :
    Says value instant ↔ value.text?.bind Timestamp.read = some instant := by
  cases value with
  | str text => simp [Says, Json.text?]
  | _ => simp [Says, Json.text?]

theorem readable_iff (value : Json) :
    Readable value ↔ (value.text?.bind Timestamp.read).isSome := by
  simp only [Readable, says_iff, Option.isSome_iff_exists]

/-- What a peer must be for its item to be accepted. -/
@[mk_iff]
structure AcceptablePeer (peer : Json) : Prop where
  isRecord : isRecord PeerRecord.keys peer = true
  instants : (PeerRecord.given peer).connection.isSome →
    (∀ value ∈ (PeerRecord.given peer).connection, Readable value) ∧
      (∀ value ∈ (PeerRecord.given peer).disconnection, Readable value) ∧
        ∀ value ∈ (PeerRecord.given peer).completion, Readable value

/-- What an entry must be to become an item. -/
@[mk_iff]
structure Acceptable (entry : Json) : Prop where
  isRecord : isRecord ItemRecord.keys entry = true
  fields : ∀ field ∈ fieldsOf ItemRecord.keys entry, (ItemRecord.kindOf field.1).Accepts field.2
  labelled : (ItemRecord.given entry).label.isSome
  dated : (ItemRecord.given entry).timestamp.isSome
  timestamp : ∀ value ∈ (ItemRecord.given entry).timestamp, Readable value
  peers : ∀ peer ∈ (ItemRecord.given entry).peers, AcceptablePeer peer

/-- The participant has the instants that the record of its peer writes, and no others. -/
structure Describes (record : PeerRecord) (participant : Participant) : Prop where
  connectedAt : Option.Rel Says record.connection (some participant.connectedAt)
  disconnectedAt : Option.Rel Says record.disconnection participant.disconnectedAt
  completedAt : Option.Rel Says record.completion participant.completedAt

/-- The records of the peers that did connect, in the order of the peers. -/
def connected (peers : List Json) : List PeerRecord :=
  (peers.map PeerRecord.given).filter fun record => record.connection.isSome

theorem connected_cons (peer : Json) (rest : List Json) :
    connected (peer :: rest) =
      if (PeerRecord.given peer).connection.isSome then PeerRecord.given peer :: connected rest
      else connected rest :=
  List.filter_cons

/-- The item has what its entry gives. -/
structure Carries (entry : Json) (item : Item) : Prop where
  name : (ItemRecord.given entry).label = some item.name
  seeders : item.seeders = (ItemRecord.given entry).seeders
  leechers : item.leechers = (ItemRecord.given entry).leechers
  registeredAt : Option.Rel Says (ItemRecord.given entry).timestamp (some item.registeredAt)
  participants :
    List.Forall₂ Describes (connected (ItemRecord.given entry).peers) item.participants

/-! ## The checks -/

/-- The refusal that the reading of an instant ends in. -/
def instantFault? (item : String) (field : Field) (value : Json) : Option Refusal :=
  match value.text?.bind Timestamp.read with
  | some _ => none
  | none => some (.unreadable item field (echo value))

/-- Everything that a peer is checked for, with the refusals that come of it. -/
def peerChecks (item : String) (peer : Json) : List (Option Refusal) :=
  let record := PeerRecord.given peer
  (if isRecord PeerRecord.keys peer then none else some (.unreadable item .peers peer.write)) ::
    if record.connection.isSome then
      [record.connection.bind (instantFault? item .connection),
        record.disconnection.bind (instantFault? item .disconnection),
        record.completion.bind (instantFault? item .completion)]
    else []

/-- Everything that the entry at a position is checked for, with the refusals that come of it. -/
def checks (index : Nat) (entry : Json) : List (Option Refusal) :=
  let record := ItemRecord.given entry
  let name := record.label.getD (fallbackLabel index entry)
  [(ItemRecord.mismatch? entry).map fun mismatch =>
      .unreadable (fallbackLabel index entry) .record mismatch.message,
    if record.label.isSome then none else some (.itemWithout name .name),
    if record.timestamp.isSome then none else some (.itemWithout name .timestamp),
    record.timestamp.bind (instantFault? name .timestamp)] ++
  record.peers.flatMap (peerChecks name)

/-- The first fault that checks find. -/
def firstFault? (faults : List (Option Refusal)) : Option Refusal :=
  faults.findSome? id

@[simp]
theorem firstFault?_nil : firstFault? [] = none := rfl

@[simp]
theorem firstFault?_cons (fault? : Option Refusal) (later : List (Option Refusal)) :
    firstFault? (fault? :: later) = fault?.or (firstFault? later) := by
  cases fault? <;> rfl

/-- Of earlier and later checks the earlier ones find their fault first. -/
@[simp]
theorem firstFault?_append (earlier later : List (Option Refusal)) :
    firstFault? (earlier ++ later) = (firstFault? earlier).or (firstFault? later) :=
  List.findSome?_append

/-! ## Refusals of readers -/

/-- The refusal that a reader ends in. -/
def refusal? {α : Type} : Except Refusal α → Option Refusal
  | .ok _ => none
  | .error refusal => some refusal

/-- What is read later is refused only if nothing was refused before. -/
theorem refusal?_bind {α β : Type} {result : Except Refusal α} {next : α → Except Refusal β}
    {later? : Option Refusal} (h : ∀ value, refusal? (next value) = later?) :
    refusal? (result >>= next) = (refusal? result).or later? := by
  cases result with
  | ok value => exact h value
  | error refusal => rfl

theorem refusal?_bind_ok {α β : Type} (result : Except Refusal α) (make : α → β) :
    refusal? (result >>= fun value => .ok (make value)) = refusal? result := by
  cases result <;> rfl

/-- Reading an instant is refused for its fault and nothing else. -/
theorem refusal?_readInstant (item : String) (field : Field) (value : Json) :
    refusal? (readInstant item field value) = instantFault? item field value := by
  unfold readInstant instantFault?
  cases value.text?.bind Timestamp.read <;> rfl

/-- An instant that may be missing is checked where it is there. -/
theorem refusal?_readOptional (item : String) (field : Field) (value? : Option Json) :
    refusal? (readOptional item field value?) = value?.bind (instantFault? item field) := by
  cases value? with
  | none => rfl
  | some value =>
    rw [Option.bind_some, ← refusal?_readInstant, readOptional]
    cases readInstant item field value <;> rfl

/-- A peer is refused for the first fault that its checks find. -/
theorem refusal?_readPeer (item : String) (peer : Json) :
    refusal? (readPeer item peer) = firstFault? (peerChecks item peer) := by
  rw [readPeer, PeerRecord.ofJson?_eq, peerChecks, firstFault?_cons]
  by_cases container : isRecord PeerRecord.keys peer
  · rw [if_pos container, if_pos container, Option.none_or]
    simp only [participant?]
    cases present : (PeerRecord.given peer).connection with
    | none => rfl
    | some connection =>
      simp only [Option.isSome_some, if_true, firstFault?_cons, firstFault?_nil, Option.bind_some,
        Option.or_none]
      rw [← refusal?_readInstant, ← refusal?_readOptional, ← refusal?_readOptional]
      -- The instants are read one after the other.
      refine refusal?_bind fun connectedAt => ?_
      refine refusal?_bind fun disconnectedAt => ?_
      exact refusal?_bind_ok _ _
  · rw [if_neg container, if_neg container]
    rfl

theorem refusal?_readPeers (item : String) (peers : List Json) :
    refusal? (readPeers item peers) = firstFault? (peers.flatMap (peerChecks item)) := by
  rw [readPeers]
  induction peers with
  | nil => rfl
  | cons peer rest ih =>
    rw [List.mapM_cons, List.flatMap_cons, firstFault?_append, ← refusal?_readPeer, ← ih]
    refine refusal?_bind fun found => ?_
    exact refusal?_bind_ok _ _

/-- An entry is refused for the first fault that its checks find. -/
theorem refusal?_readItem (index : Nat) (entry : Json) :
    refusal? (readItem index entry) = firstFault? (checks index entry) := by
  rw [readItem_eq, ItemRecord.ofJson_eq, checks]
  cases ItemRecord.mismatch? entry with
  | some mismatch => rfl
  | none =>
    simp only [checked]
    cases (ItemRecord.given entry).label with
    | none => rfl
    -- From here on every refusal bears the label, and the position is out of sight.
    | some name =>
      cases (ItemRecord.given entry).timestamp with
      | none => rfl
      | some timestamp =>
        simp only [Option.map_none, Option.getD_some, Option.isSome_some, if_true,
          Option.bind_some, firstFault?_append, firstFault?_cons, firstFault?_nil, Option.none_or,
          Option.or_none]
        rw [← refusal?_readInstant, ← refusal?_readPeers, readLabelled]
        refine refusal?_bind fun registeredAt => ?_
        exact refusal?_bind_ok _ _

/-! ## Entries without a fault -/

theorem bind_instantFault?_eq_none_iff (item : String) (field : Field) (value? : Option Json) :
    value?.bind (instantFault? item field) = none ↔ ∀ value ∈ value?, Readable value := by
  cases value? with
  | none => simp
  | some value =>
    simp only [Option.bind_some, Option.mem_some_iff, forall_eq', readable_iff, instantFault?]
    cases value.text?.bind Timestamp.read <;> simp

theorem firstFault?_eq_none_iff (faults : List (Option Refusal)) :
    firstFault? faults = none ↔ ∀ fault? ∈ faults, fault? = none :=
  List.findSome?_eq_none_iff

/-- The checks of a peer find no fault exactly if it is acceptable. -/
theorem firstFault?_peerChecks_eq_none_iff (item : String) (peer : Json) :
    firstFault? (peerChecks item peer) = none ↔ AcceptablePeer peer := by
  rw [acceptablePeer_iff, peerChecks, firstFault?_cons, Option.or_eq_none_iff]
  apply and_congr
  · simp
  · by_cases present : (PeerRecord.given peer).connection.isSome
    · rw [if_pos present, forall_prop_of_true present]
      simp only [firstFault?_cons, firstFault?_nil, Option.or_none, Option.or_eq_none_iff,
        bind_instantFault?_eq_none_iff]
    -- Of a peer that never connected nothing more is asked.
    · rw [if_neg present]
      exact iff_of_true rfl fun connects => absurd connects present

theorem firstFault?_flatMap_eq_none_iff (item : String) (peers : List Json) :
    firstFault? (peers.flatMap (peerChecks item)) = none ↔
      ∀ peer ∈ peers, AcceptablePeer peer := by
  simp only [← firstFault?_peerChecks_eq_none_iff item, firstFault?_eq_none_iff,
    List.forall_mem_flatMap]

/-- The checks find no fault in good entries, and in no others. -/
theorem firstFault?_checks_eq_none_iff (index : Nat) (entry : Json) :
    firstFault? (checks index entry) = none ↔ Acceptable entry := by
  rw [acceptable_iff, checks, firstFault?_append, Option.or_eq_none_iff,
    firstFault?_flatMap_eq_none_iff]
  simp only [firstFault?_cons, firstFault?_nil, Option.or_none, Option.or_eq_none_iff,
    Option.map_eq_none_iff, ItemRecord.mismatch?_eq_none_iff, bind_instantFault?_eq_none_iff,
    ite_eq_left_iff, reduceCtorEq, imp_false, not_not, and_assoc]

/-! ## What items carry -/

theorem says_of_readInstant {item : String} {field : Field} {value : Json} {instant : Instant}
    (h : readInstant item field value = .ok instant) : Says value instant := by
  rw [says_iff]
  unfold readInstant at h
  split at h
  · next read => rw [read, Except.ok.inj h]
  · cases h

theorem rel_of_readOptional {item : String} {field : Field} {value? : Option Json}
    {instant? : Option Instant} (h : readOptional item field value? = .ok instant?) :
    Option.Rel Says value? instant? := by
  cases value? with
  | none =>
    cases h
    exact .none
  | some value =>
    cases read : readInstant item field value with
    | error refusal =>
      rw [readOptional, read] at h
      cases h
    | ok instant =>
      rw [readOptional, read] at h
      cases h
      exact .some (says_of_readInstant read)

theorem participant?_of_readPeer {item : String} {peer : Json} {found : Option Participant}
    (h : readPeer item peer = .ok found) :
    participant? item (PeerRecord.given peer) = .ok found := by
  rw [readPeer, PeerRecord.ofJson?_eq] at h
  by_cases container : isRecord PeerRecord.keys peer
  · rwa [if_pos container] at h
  · rw [if_neg container] at h
    cases h

/-- A participant made of a record has the instants that the record writes. -/
theorem describes_of_participant? {item : String} {record : PeerRecord}
    {participant : Participant} (h : participant? item record = .ok (some participant)) :
    Describes record participant := by
  unfold participant? at h
  split at h
  · cases h
  next connection present =>
    simp only [bind, Except.bind] at h
    split at h
    · cases h
    next connectedAt connects =>
      split at h
      · cases h
      next disconnectedAt disconnects =>
        split at h
        · cases h
        next completedAt completes =>
          cases h
          exact {
            connectedAt := by
              rw [present]
              exact .some (says_of_readInstant connects)
            disconnectedAt := rel_of_readOptional disconnects
            completedAt := rel_of_readOptional completes }

/-- The participants are those of the connected peers, in the order of the peers. -/
theorem participants_of_readPeers {item : String} {peers : List Json}
    {found : List (Option Participant)} (h : readPeers item peers = .ok found) :
    List.Forall₂ Describes (connected peers) (found.filterMap id) := by
  have each := forall₂_of_mapM h
  clear h
  -- A peer leaves nothing exactly if its record is not among those of the connected peers.
  induction each with
  | nil => exact .nil
  | @cons peer found rest others read _ ih =>
    have read := participant?_of_readPeer read
    have absent := isNone_of_participant? read
    cases found with
    | none =>
      have left : ¬ (PeerRecord.given peer).connection.isSome := by simp [← absent]
      rw [connected_cons, if_neg left]
      exact ih
    | some participant =>
      have kept : (PeerRecord.given peer).connection.isSome := by
        cases present : (PeerRecord.given peer).connection <;> simp [present] at absent ⊢
      rw [connected_cons, if_pos kept]
      exact .cons (describes_of_participant? read) ih

/-- An item carries what its entry gives. -/
theorem carries_of_readItem {index : Nat} {entry : Json} {item : Item} {absent : Nat}
    (h : readItem index entry = .ok (item, absent)) : Carries entry item := by
  obtain ⟨record, timestamp, found, isRecord, labelled, dated, registered, peers, made, -⟩ :=
    of_readItem_eq_ok h
  -- Whatever was read without a mismatch is the record of the last values.
  have given : record = ItemRecord.given entry := by
    rw [ItemRecord.ofJson_eq] at isRecord
    cases wrong : ItemRecord.mismatch? entry with
    | none =>
      rw [wrong] at isRecord
      exact (Except.ok.inj isRecord).symm
    | some mismatch =>
      rw [wrong] at isRecord
      cases isRecord
  subst given
  rw [made]
  exact {
    name := labelled
    seeders := rfl
    leechers := rfl
    registeredAt := by
      rw [dated]
      exact .some (says_of_readInstant registered)
    participants := participants_of_readPeers peers }

/-! ## Verdicts -/

/-- An entry is accepted as the item that is read from it. -/
theorem judge_eq_accepted_iff {index : Nat} {entry : Json} {item : Item} {absent : Nat} :
    judge index entry = .accepted item absent ↔ readItem index entry = .ok (item, absent) := by
  cases read : readItem index entry <;> simp [judge, read, Prod.ext_iff]

theorem exists_accepted_iff {index : Nat} {entry : Json} :
    (∃ item absent, judge index entry = .accepted item absent) ↔
      refusal? (readItem index entry) = none := by
  cases read : readItem index entry <;> simp [judge, read, refusal?]

/-- An entry is rejected for the refusal that its reading ends in. -/
theorem judge_eq_rejected_iff {index : Nat} {entry : Json} {refusal : Refusal} :
    judge index entry = .rejected refusal ↔ refusal? (readItem index entry) = some refusal := by
  cases read : readItem index entry <;> simp [judge, read, refusal?]

/-- Every entry is judged by its checks: it is accepted exactly if it is good, and its item then
carries what the entry gives; otherwise the first fault that the checks find is the refusal. -/
theorem ingest_by_checks (entries : List Json) :
    ingest entries = .ofVerdicts (entries.mapIdx judge) ∧
      ∀ index entry,
        ((∃ item absent, judge index entry = .accepted item absent) ↔ Acceptable entry) ∧
        (∀ item absent, judge index entry = .accepted item absent → Carries entry item) ∧
        ∀ refusal, judge index entry = .rejected refusal ↔
          firstFault? (checks index entry) = some refusal := by
  refine ⟨rfl, ?_⟩
  intro index entry
  refine ⟨?_, ?_, ?_⟩
  · rw [exists_accepted_iff, refusal?_readItem, firstFault?_checks_eq_none_iff]
  · intro item absent accepted
    exact carries_of_readItem (judge_eq_accepted_iff.1 accepted)
  · intro refusal
    rw [judge_eq_rejected_iff, refusal?_readItem]

/-- A record in the form of a list, with a peer that never connected and whose completion nobody
looks at; and a record with two faults, of which the earlier one is the refusal. -/
theorem ingest_by_checks_of_list_form_and_two_faults :
    Carries
        (.arr [.str "a", .null, .str "2022-06-10T12:00:00", .int 2, .int 0, .arr [
          .obj [("dt_connection", .null), ("dt_completion", .int 5)],
          .obj [("dt_connection", .str "2022-06-10T11:00:00"), ("dt_disconnection", .null)]]])
        ⟨"a", 2, 0, ⟨1654862400, 0⟩, [⟨⟨1654858800, 0⟩, none, none⟩]⟩ ∧
      judge 0 (.obj [("name", .str "b"), ("peers", .arr [.int 1]), ("timestamp", .str "noon")]) =
        .rejected (.unreadable "b" .timestamp "noon") :=
  ⟨((ingest_by_checks []).2 0 _).2.1 _ 1 rfl, (((ingest_by_checks []).2 0 _).2.2 _).2 rfl⟩

end SwarmChart.Tracker
