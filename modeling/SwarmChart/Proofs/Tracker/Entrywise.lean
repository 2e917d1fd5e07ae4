import Mathlib.Data.List.Forall2
import SwarmChart.Tracker.Ingest

/-!
# Ingestion entry by entry

Every entry is accounted for on its own (`Accounts`): either it becomes one item, and each of its
peers is a participant of that item or a refusal of its own, or it becomes no item and is one
refusal of the whole entry. Nothing else in a verdict looks at the other entries, and the position
is seen only in the label of an entry that has no label itself (`judge_move`). The laws of whole
lists follow (`ingest_entrywise`): nothing is lost, lists are ingested one after the other, and an
entry can be replaced without touching any other.
-/

set_option autoImplicit false

namespace SwarmChart.Tracker

/-! ## The checks in their order -/

/-- The item of a record with its label and its timestamp, and the number of its peers that never
connected. -/
def readLabelled (record : ItemRecord) (name : String) (timestamp : Json) :
    Except Refusal (Item × Nat) := do
  let registeredAt ← readInstant name .timestamp timestamp
  let peers ← readPeers name record.peers
  .ok (⟨name, record.seeders, record.leechers, registeredAt, peers.filterMap id⟩,
    peers.countP Option.isNone)

/-- The position of an entry is looked at by the first two checks only. -/
theorem readItem_eq (index : Nat) (entry : Json) :
    readItem index entry =
      match ItemRecord.ofJson entry with
      | .error mismatch =>
        .error (.unreadable (fallbackLabel index entry) .record mismatch.message)
      | .ok record =>
        match record.label with
        | none => .error (.itemWithout (fallbackLabel index entry) .name)
        | some name =>
          match record.timestamp with
          | none => .error (.itemWithout name .timestamp)
          | some timestamp => readLabelled record name timestamp := by
  unfold readItem
  cases ItemRecord.ofJson entry with
  | error mismatch => rfl
  | ok record =>
    simp only [bind, Except.bind]
    cases record.label with
    | none => rfl
    | some name => cases record.timestamp <;> rfl

/-! ## Labels -/

/-- What an entry without a label is called at a position. -/
def numberLabel (index : Nat) : String := "#" ++ String.ofList (Decimal.digits index)

/-- The label that a refusal takes from an entry whose record does not give one. -/
def ownLabel? (entry : Json) : Option String :=
  ((entry.member? "name").bind Json.text?).or ((entry.member? "info_hash").bind Json.text?)

/-- The entry has no label, and a refusal can only call it by its number. -/
def isUnlabelled (entry : Json) : Bool :=
  (ownLabel? entry).isNone &&
    match ItemRecord.ofJson entry with
    | .ok record => record.label.isNone
    | .error _ => true

/-- The refusal under another label. -/
def Refusal.relabel (label : String) : Refusal → Refusal
  | peerWithout _ field => peerWithout label field
  | itemWithout _ field => itemWithout label field
  | unreadable _ field value => unreadable label field value

namespace Verdict

/-- The verdict with its refusal under another label. -/
def relabel (label : String) : Verdict → Verdict
  | accepted item absent => accepted item absent
  | rejected refusal => rejected (refusal.relabel label)

/-- The verdict on an entry, moved to another position. -/
def move (entry : Json) (index : Nat) (verdict : Verdict) : Verdict :=
  if isUnlabelled entry then verdict.relabel (numberLabel index) else verdict

end Verdict

/-- An entry goes by its own label, and by its number where it has none. -/
theorem fallbackLabel_eq (index : Nat) (entry : Json) :
    fallbackLabel index entry = (ownLabel? entry).getD (numberLabel index) := rfl

/-- The position of an entry is seen in its label alone, and only if it has none of its own. -/
theorem judge_move (entry : Json) (index other : Nat) :
    judge other entry = (judge index entry).move entry other := by
  simp only [judge, readItem_eq, fallbackLabel_eq, Verdict.move, isUnlabelled]
  cases ItemRecord.ofJson entry with
  | error mismatch => cases ownLabel? entry <;> rfl
  | ok record =>
    cases named : record.label with
    | none => cases ownLabel? entry <;> simp [named, Verdict.relabel, Refusal.relabel]
    | some name => simp [named]

/-! ## Refusals of whole entries -/

/-- Every refusal that can come out is one of the whole entry. -/
def RejectsOnly {α : Type} (result : Except Refusal α) : Prop :=
  ∀ refusal, result = .error refusal → refusal.rejectsItem = true

namespace RejectsOnly

variable {α β : Type}

theorem ok (value : α) : RejectsOnly (.ok value) := by
  intro refusal h
  cases h

theorem error {refusal : Refusal} (h : refusal.rejectsItem = true) :
    RejectsOnly (.error refusal : Except Refusal α) := by
  rintro _ ⟨⟩
  exact h

theorem bind {result : Except Refusal α} {next : α → Except Refusal β} (h : RejectsOnly result)
    (later : ∀ value, RejectsOnly (next value)) : RejectsOnly (result >>= next) := by
  cases result with
  | error refusal => exact error (h refusal rfl)
  | ok value => exact later value

theorem map {result : Except Refusal α} (change : α → β) (h : RejectsOnly result) :
    RejectsOnly (result.map change) := by
  cases result with
  | error refusal => exact error (h refusal rfl)
  | ok value => exact ok (change value)

theorem mapM {read : α → Except Refusal β} (each : ∀ value, RejectsOnly (read value))
    (values : List α) : RejectsOnly (values.mapM read) := by
  induction values with
  | nil => exact ok []
  | cons value rest ih =>
    rw [List.mapM_cons]
    apply bind (each value)
    intro first
    apply bind ih
    intro others
    exact ok (first :: others)

end RejectsOnly

theorem rejectsOnly_readInstant (item : String) (field : Field) (value : Json) :
    RejectsOnly (readInstant item field value) := by
  unfold readInstant
  split
  · exact RejectsOnly.ok _
  · exact RejectsOnly.error rfl

theorem rejectsOnly_readOptional (item : String) (field : Field) (value : Option Json) :
    RejectsOnly (readOptional item field value) := by
  cases value with
  | none => exact RejectsOnly.ok none
  | some value => exact (rejectsOnly_readInstant item field value).map some

theorem rejectsOnly_participant? (item : String) (record : PeerRecord) :
    RejectsOnly (participant? item record) := by
  unfold participant?
  split
  · exact RejectsOnly.ok none
  · apply (rejectsOnly_readInstant _ _ _).bind
    intro connectedAt
    apply (rejectsOnly_readOptional _ _ _).bind
    intro disconnectedAt
    apply (rejectsOnly_readOptional _ _ _).bind
    intro completedAt
    exact RejectsOnly.ok _

/-- A peer that cannot be read takes its whole item with it. -/
theorem rejectsOnly_readPeer (item : String) (value : Json) :
    RejectsOnly (readPeer item value) := by
  unfold readPeer
  split
  · exact RejectsOnly.error rfl
  · exact rejectsOnly_participant? item _

/-- Whatever reading an entry ends in is a refusal of the entry. -/
theorem rejectsOnly_readItem (index : Nat) (entry : Json) : RejectsOnly (readItem index entry) := by
  rw [readItem_eq]
  split
  · exact RejectsOnly.error rfl
  · next record _ =>
    split
    · exact RejectsOnly.error rfl
    · next name _ =>
      split
      · exact RejectsOnly.error rfl
      · apply (rejectsOnly_readInstant _ _ _).bind
        intro registeredAt
        apply (RejectsOnly.mapM (rejectsOnly_readPeer name) record.peers).bind
        intro found
        exact RejectsOnly.ok _

/-! ## Peers -/

/-- The peer is a record that has no connection. -/
def neverConnected (peer : Json) : Bool :=
  (PeerRecord.ofJson? peer).any fun record => record.connection.isNone

/-- A record makes no participant exactly if it has no connection. -/
theorem isNone_of_participant? {item : String} {record : PeerRecord} {found : Option Participant}
    (h : participant? item record = .ok found) : found.isNone = record.connection.isNone := by
  unfold participant? at h
  split at h
  · next absent =>
    cases h
    rw [absent]
    rfl
  · next connection present =>
    rw [present]
    simp only [bind, Except.bind] at h
    repeat' split at h
    all_goals cases h
    rfl

/-- A peer makes no participant exactly if it never connected. -/
theorem isNone_of_readPeer {item : String} {peer : Json} {found : Option Participant}
    (h : readPeer item peer = .ok found) : found.isNone = neverConnected peer := by
  unfold readPeer at h
  unfold neverConnected
  split at h
  · cases h
  · next record isRecord =>
    rw [isRecord]
    exact isNone_of_participant? h

/-- What has been read of a list comes of its values one by one. -/
theorem forall₂_of_mapM {α β : Type} {read : α → Except Refusal β} {values : List α}
    {found : List β} (h : values.mapM read = .ok found) :
    List.Forall₂ (fun value result => read value = .ok result) values found := by
  induction values generalizing found with
  | nil =>
    cases h
    exact .nil
  | cons value rest ih =>
    rw [List.mapM_cons] at h
    cases first : read value with
    | error refusal =>
      rw [first] at h
      cases h
    | ok result =>
      cases others : rest.mapM read with
      | error refusal =>
        rw [first, others] at h
        cases h
      | ok results =>
        rw [first, others] at h
        cases h
        exact .cons first (ih others)

/-- Every peer leaves something, and the peers that never connected leave nothing but their
absence. -/
theorem length_readPeers {item : String} {peers : List Json} {found : List (Option Participant)}
    (h : readPeers item peers = .ok found) :
    found.length = peers.length ∧ found.countP Option.isNone = peers.countP neverConnected := by
  have each := forall₂_of_mapM h
  clear h
  induction each with
  | nil => exact ⟨rfl, rfl⟩
  | cons first _ ih =>
    obtain ⟨length, absent⟩ := ih
    rw [List.length_cons, List.length_cons, length, List.countP_cons, List.countP_cons, absent,
      isNone_of_readPeer first]
    exact ⟨rfl, rfl⟩

theorem length_filterMap_id (found : List (Option Participant)) :
    (found.filterMap id).length + found.countP Option.isNone = found.length := by
  induction found with
  | nil => rfl
  | cons participant rest ih =>
    cases participant with
    | none =>
      rw [List.filterMap_cons_none rfl, List.countP_cons_of_pos rfl, List.length_cons]
      omega
    | some participant =>
      have front : (some participant :: rest).filterMap id = participant :: rest.filterMap id := rfl
      rw [front, List.countP_cons_of_neg (by simp), List.length_cons, List.length_cons]
      omega

/-! ## Accounts -/

/-- The items and refusals account for an entry: one item, with a refusal for each peer that never
connected and a participant for each other peer, or no item and one refusal of the whole entry. -/
def Accounts (entry : Json) (items : List Item) (refusals : List Refusal) : Prop :=
  (∃ record item, ItemRecord.ofJson entry = .ok record ∧ items = [item] ∧
      refusals = List.replicate (record.peers.countP neverConnected)
        (.peerWithout item.name .connection) ∧
      item.participants.length + refusals.length = record.peers.length) ∨
    (items = [] ∧ ∃ refusal, refusals = [refusal] ∧ refusal.rejectsItem = true)

/-- An item comes of a record with a label, a timestamp that can be read and peers that can be
read. -/
theorem of_readItem_eq_ok {index : Nat} {entry : Json} {item : Item} {absent : Nat}
    (h : readItem index entry = .ok (item, absent)) :
    ∃ record timestamp found, ItemRecord.ofJson entry = .ok record ∧
      record.label = some item.name ∧ record.timestamp = some timestamp ∧
      readInstant item.name .timestamp timestamp = .ok item.registeredAt ∧
      readPeers item.name record.peers = .ok found ∧
      item = ⟨item.name, record.seeders, record.leechers, item.registeredAt, found.filterMap id⟩ ∧
      absent = found.countP Option.isNone := by
  rw [readItem_eq] at h
  split at h
  · cases h
  next record isRecord =>
    split at h
    · cases h
    next name labelled =>
      split at h
      · cases h
      next timestamp dated =>
        simp only [readLabelled, bind, Except.bind] at h
        split at h
        · cases h
        next registeredAt registered =>
          split at h
          · cases h
          next found peers =>
            cases h
            exact ⟨record, timestamp, found, isRecord, labelled, dated, registered, peers, rfl, rfl⟩

/-- Each peer of an accepted entry is a participant or one that never connected. -/
theorem peers_of_readItem {index : Nat} {entry : Json} {item : Item} {absent : Nat}
    (h : readItem index entry = .ok (item, absent)) :
    ∃ record, ItemRecord.ofJson entry = .ok record ∧ absent = record.peers.countP neverConnected ∧
      item.participants.length + absent = record.peers.length := by
  obtain ⟨record, _, found, isRecord, -, -, -, peers, made, rfl⟩ := of_readItem_eq_ok h
  -- What the peers left is split into participants and absences.
  obtain ⟨length, absent⟩ := length_readPeers peers
  refine ⟨record, isRecord, absent, ?_⟩
  rw [made, length_filterMap_id, length]

/-- The verdict on an entry accounts for it, wherever the entry stands. -/
theorem accounts_judge (index : Nat) (entry : Json) :
    Accounts entry (judge index entry).items (judge index entry).refusals := by
  cases h : readItem index entry with
  | error refusal =>
    have verdict : judge index entry = .rejected refusal := by rw [judge, h]
    rw [verdict]
    exact Or.inr ⟨rfl, refusal, rfl, rejectsOnly_readItem index entry refusal h⟩
  | ok found =>
    -- The refusals of an item are those of its absent peers, counted while the peers were read.
    obtain ⟨item, absent⟩ := found
    have verdict : judge index entry = .accepted item absent := by rw [judge, h]
    obtain ⟨record, isRecord, count, whole⟩ := peers_of_readItem h
    rw [verdict]
    refine Or.inl ⟨record, item, isRecord, rfl, ?_, ?_⟩
    · rw [← count]
      rfl
    · rw [← whole, Verdict.refusals, List.length_replicate]

/-- Every entry counts once: as its item or as its refusal. -/
theorem one_of_accounts {entry : Json} {items : List Item} {refusals : List Refusal}
    (h : Accounts entry items refusals) :
    items.length + refusals.countP Refusal.rejectsItem = 1 := by
  rcases h with ⟨record, item, -, rfl, rfl, -⟩ | ⟨rfl, refusal, rfl, rejects⟩
  · rw [List.countP_replicate]
    rfl
  · rw [List.countP_cons_of_pos rejects]
    rfl

/-! ## Whole lists -/

namespace Ingested

/-- What comes of verdicts in their order. -/
def ofVerdicts (verdicts : List Verdict) : Ingested :=
  ⟨verdicts.flatMap Verdict.items, verdicts.flatMap Verdict.refusals⟩

/-- One list ingested, and then another. -/
instance : Append Ingested :=
  ⟨fun earlier later => ⟨earlier.items ++ later.items, earlier.refusals ++ later.refusals⟩⟩

/-- Verdicts are gathered in the order of their entries. -/
theorem ofVerdicts_append (earlier later : List Verdict) :
    ofVerdicts (earlier ++ later) = ofVerdicts earlier ++ ofVerdicts later := by
  simp only [ofVerdicts, List.flatMap_append]
  rfl

/-- Each verdict that accounts for its entry gives one item or one refusal of the entry. -/
theorem length_add_rejected {verdicts : List Verdict}
    (accounted : ∀ verdict ∈ verdicts, ∃ entry, Accounts entry verdict.items verdict.refusals) :
    (ofVerdicts verdicts).items.length +
      (ofVerdicts verdicts).refusals.countP Refusal.rejectsItem = verdicts.length := by
  induction verdicts with
  | nil => rfl
  | cons verdict rest ih =>
    obtain ⟨entry, accounts⟩ := accounted verdict List.mem_cons_self
    have one := one_of_accounts accounts
    have others := ih fun other member => accounted other (List.mem_cons_of_mem _ member)
    simp only [ofVerdicts, List.flatMap_cons, List.length_append, List.countP_append,
      List.length_cons] at others ⊢
    omega

end Ingested

/-- Nothing is lost: every entry is counted once, as its item or as its refusal. -/
theorem length_items_add_rejected (entries : List Json) :
    (ingest entries).items.length + (ingest entries).refusals.countP Refusal.rejectsItem =
      entries.length := by
  have accounted : ∀ verdict ∈ entries.mapIdx judge,
      ∃ entry, Accounts entry verdict.items verdict.refusals := by
    intro verdict member
    obtain ⟨index, inside, rfl⟩ := List.mem_mapIdx.1 member
    exact ⟨entries[index], accounts_judge index entries[index]⟩
  calc (ingest entries).items.length + (ingest entries).refusals.countP Refusal.rejectsItem
      = (entries.mapIdx judge).length := Ingested.length_add_rejected accounted
    _ = entries.length := List.length_mapIdx

/-- A list behind another one is ingested as if it stood alone, with its numbers moved. -/
theorem ingest_append (earlier later : List Json) :
    ingest (earlier ++ later) =
      ingest earlier ++ Ingested.ofVerdicts
        (later.mapIdx fun index entry => (judge index entry).move entry (earlier.length + index)) := by
  have moved : (later.mapIdx fun index => judge (index + earlier.length)) =
      later.mapIdx fun index entry => (judge index entry).move entry (earlier.length + index) := by
    congr
    funext index entry
    rw [judge_move entry index, Nat.add_comm]
  calc ingest (earlier ++ later)
      = .ofVerdicts ((earlier ++ later).mapIdx judge) := rfl
    _ = .ofVerdicts (earlier.mapIdx judge) ++
          .ofVerdicts (later.mapIdx fun index => judge (index + earlier.length)) := by
        rw [List.mapIdx_append, Ingested.ofVerdicts_append]
    _ = _ := by
        rw [moved]
        rfl

/-- Another entry in one place changes the verdict of that place and no other. -/
theorem ingest_set (entries : List Json) (index : Nat) (other : Json) :
    ingest (entries.set index other) =
      .ofVerdicts ((entries.mapIdx judge).set index (judge index other)) := by
  rw [← List.mapIdx_set]
  rfl

/-- Ingestion goes entry by entry: the verdicts stand in the order of the entries, each accounts
for its own entry and sees the position in the label alone. So every entry is counted once, lists
are ingested one after the other with the numbers moved, and a replaced entry changes its own
verdict only. -/
theorem ingest_entrywise (entries : List Json) :
    ingest entries = .ofVerdicts (entries.mapIdx judge) ∧
      (∀ entry index, Accounts entry (judge index entry).items (judge index entry).refusals ∧
        ∀ other, judge other entry = (judge index entry).move entry other) ∧
      (ingest entries).items.length + (ingest entries).refusals.countP Refusal.rejectsItem =
        entries.length ∧
      (∀ later, ingest (entries ++ later) =
        ingest entries ++ .ofVerdicts (later.mapIdx fun index entry =>
          (judge index entry).move entry (entries.length + index))) ∧
      ∀ index other, ingest (entries.set index other) =
        .ofVerdicts ((entries.mapIdx judge).set index (judge index other)) := by
  refine ⟨rfl, ?_, ?_, ?_, ?_⟩
  · intro entry index
    exact ⟨accounts_judge index entry, judge_move entry index⟩
  · exact length_items_add_rejected entries
  · exact ingest_append entries
  · exact ingest_set entries

end SwarmChart.Tracker
