import SwarmChart.Http.Service
import SwarmChart.Proofs.Dashboard.WellFormed
import SwarmChart.Proofs.Http.Spelling
import SwarmChart.Proofs.Tracker.WrittenFile

/-!
# Items on their own

Asking for one item and asking for the dashboard over the same surroundings give answers that agree
(`respond_item`): what is wrong for the one is wrong for the other, and otherwise the answer is the
first item of that name in the document of the dashboard, or that there is none.
-/

set_option autoImplicit false

namespace SwarmChart

/-! ## Documents -/

namespace Json

/-- The items of the list under a key. -/
def listUnder? (key : String) (document : Json) : Option (List Json) :=
  match document.member? key with
  | some (.arr items) => some items
  | _ => none

/-- The text under a key. -/
def textUnder? (key : String) (document : Json) : Option String :=
  (document.member? key).bind text?

end Json

theorem ItemSeries.textUnder?_name (item : ItemSeries) :
    item.document.textUnder? "name" = some item.name := rfl

theorem Dashboard.listUnder?_items (dashboard : Dashboard) :
    dashboard.document.listUnder? "items" = some (dashboard.items.map ItemSeries.document) := rfl

/-- Looking for a name among the documents is looking for it among the items. -/
theorem Dashboard.find?_document (dashboard : Dashboard) (name : String) :
    ((dashboard.items.map ItemSeries.document).find? fun element =>
        element.textUnder? "name" = some name) =
      (dashboard.items.find? fun item => item.name = name).map ItemSeries.document := by
  rw [List.find?_map]
  simp only [Function.comp_def, ItemSeries.textUnder?_name, Option.some.injEq]

/-- The dashboard shows the items ingested, in their order. -/
theorem Dashboard.labels_of_ofIngested {ingested : Tracker.Ingested} {now : Instant}
    {seconds : Float} {dashboard : Dashboard}
    (h : Dashboard.ofIngested ingested now seconds = .ok dashboard) :
    dashboard.labels = ingested.items.map Tracker.Item.name := by
  unfold Dashboard.ofIngested Dashboard.build at h
  cases length : Window.spanOfSeconds seconds with
  | error invalid =>
    rw [length] at h
    cases h
  | ok span =>
    rw [length] at h
    cases h
    simp [Dashboard.labels, ItemSeries.ofItem]

/-- Every finite length gives a dashboard of that length. -/
theorem Dashboard.exists_ofIngested_of_finite (ingested : Tracker.Ingested) (now : Instant)
    {seconds : Float} (finite : seconds.isFinite = true) :
    ∃ dashboard, ofIngested ingested now seconds = .ok dashboard ∧
      dashboard.seconds = seconds := by
  rw [ofIngested, build, spanOfSeconds_eq, if_pos finite]
  exact ⟨_, rfl, rfl⟩

namespace Http

variable {surroundings : Surroundings} {query : List Char}

/-! ## The dashboard of a query -/

/-- A fault of the query comes first. -/
theorem dashboardFor_of_refused {error : QueryError}
    (refused : WindowChoice.ofQuery query = .error error) :
    dashboardFor surroundings query = .error (.query error) := by
  simp only [dashboardFor, refused]

section Said

variable {choice : WindowChoice} (said : WindowChoice.ofQuery query = .ok choice)

include said

/-- Behind a query that can be read, a fault of the file comes first. -/
theorem dashboardFor_of_unreadable {error : Tracker.LoadError}
    (unreadable : Tracker.load surroundings.file = .error error) :
    dashboardFor surroundings query = .error (.file error) := by
  simp only [dashboardFor, said, unreadable]

/-- Without a fault in the query or the file, the length decides. -/
theorem dashboardFor_of_loaded {entries : List Json}
    (loaded : Tracker.load surroundings.file = .ok entries) :
    dashboardFor surroundings query =
      (Dashboard.ofIngested (Tracker.ingest entries) surroundings.now
        (choice.seconds surroundings.defaultWindow)).mapError Refusal.length := by
  simp only [dashboardFor, said, loaded]

/-- Where nothing is wrong, the answer is the dashboard of the length that was said. -/
theorem exists_answerDashboard {entries : List Json}
    (loaded : Tracker.load surroundings.file = .ok entries)
    (finite : (choice.seconds surroundings.defaultWindow).isFinite = true) :
    ∃ dashboard, Dashboard.ofIngested (Tracker.ingest entries) surroundings.now
        (choice.seconds surroundings.defaultWindow) = .ok dashboard ∧
      dashboard.seconds = choice.seconds surroundings.defaultWindow ∧
      answerDashboard surroundings query = .ofJson dashboard.document := by
  obtain ⟨dashboard, built, length⟩ :=
    Dashboard.exists_ofIngested_of_finite (Tracker.ingest entries) surroundings.now finite
  refine ⟨dashboard, built, length, ?_⟩
  rw [answerDashboard, dashboardFor_of_loaded said loaded, built]
  rfl

end Said

/-- No refusal looks like an answer. -/
theorem Refusal.status_response (refusal : Refusal) : refusal.response.status ≠ 200 := by
  cases refusal <;> simp [response, Response.badRequest, Response.bare]

/-- A dashboard that is shown is that of the entries in the data file. -/
theorem entries_of_dashboardFor {dashboard : Dashboard}
    (h : dashboardFor surroundings query = .ok dashboard) :
    ∃ entries, Tracker.load surroundings.file = .ok entries ∧
      dashboard.labels = (Tracker.ingest entries).items.map Tracker.Item.name := by
  unfold dashboardFor at h
  split at h
  · cases h
  split at h
  · cases h
  next entries loaded =>
    refine ⟨entries, loaded, ?_⟩
    cases found : Dashboard.ofIngested (Tracker.ingest entries) surroundings.now _ with
    | error invalid =>
      rw [found] at h
      cases h
    | ok built =>
      rw [found] at h
      cases h
      exact Dashboard.labels_of_ofIngested found

/-! ## Routes -/

theorem Target.ofText_dashboard (query : List Char) :
    Target.ofText ("/dashboard".toList ++ '?' :: query) =
      ⟨"/dashboard".toList, (splitFirst '#' query).1⟩ :=
  Target.ofText_append (by decide) (by decide) (by decide) query

/-- A get of the dashboard is answered for the query up to the fragment. -/
theorem respond_dashboard (query : List Char) :
    respond surroundings ⟨.get, "/dashboard".toList ++ '?' :: query⟩ =
      answerDashboard surroundings (splitFirst '#' query).1 := by
  rw [respond, Target.ofText_dashboard]
  rfl

/-- A get of a spelled name is answered for that item, with the query up to the fragment. -/
theorem respond_itemsPath {segment : List Char} {octets : List UInt8}
    (spells : Percent.Spells segment octets) (named : segment ≠ []) (query : List Char) :
    respond surroundings ⟨.get, Route.itemsPath ++ segment ++ '?' :: query⟩ =
      answerItem surroundings segment (splitFirst '#' query).1 := by
  have absent : ∀ c, c ∈ segment → c ≠ '/' ∧ c ≠ '?' ∧ c ≠ '#' := fun c =>
    Percent.ne_of_mem_spells spells
  have rooted : (Route.itemsPath ++ segment).head? = some '/' := rfl
  have noQuery : '?' ∉ Route.itemsPath ++ segment := by
    intro member
    rcases List.mem_append.1 member with member | member
    · exact absurd member (by decide)
    · exact (absent '?' member).2.1 rfl
  have noFragment : '#' ∉ Route.itemsPath ++ segment := by
    intro member
    rcases List.mem_append.1 member with member | member
    · exact absurd member (by decide)
    · exact (absent '#' member).2.2 rfl
  have route := Route.ofPath?_item named fun member => (absent '/' member).1 rfl
  rw [respond, Target.ofText_append rooted noQuery noFragment query]
  dsimp only
  rw [route]
  rfl

/-! ## Agreement -/

/-- The answer about one item fits the answer with the whole dashboard: a refusal is the same for
both, and otherwise it is the document of the first item of the name, or there is none. The items
are those of the data file, in their order. -/
def ItemFits (file : Option (List UInt8)) (name : String) (whole single : Response) : Prop :=
  (whole.status ≠ 200 ∧ single = whole) ∨
    (whole.status = 200 ∧ ∃ entries document elements,
      Tracker.load file = .ok entries ∧ whole.body = .json document ∧
      document.listUnder? "items" = some elements ∧
      elements.map (Json.textUnder? "name") =
        (Tracker.ingest entries).items.map (fun item => some item.name) ∧
      single =
        match elements.find? fun element => element.textUnder? "name" = some name with
        | some element => .ofJson element
        | none => .bare 404)

/-- The two answers fit for whatever name the segment decodes to. -/
theorem itemFits_answer {segment : List Char} {name : String}
    (decoded : Percent.decodePath? segment = some name.toList) (query : List Char) :
    ItemFits surroundings.file name (answerDashboard surroundings query)
      (answerItem surroundings segment query) := by
  unfold answerDashboard answerItem
  rw [decoded]
  cases found : dashboardFor surroundings query with
  | error refusal => exact Or.inl ⟨refusal.status_response, rfl⟩
  | ok dashboard =>
    -- The item is looked for among the items of this very dashboard.
    right
    obtain ⟨entries, loaded, labels⟩ := entries_of_dashboardFor found
    refine ⟨rfl, entries, dashboard.document, dashboard.items.map ItemSeries.document, loaded, rfl,
      dashboard.listUnder?_items, ?_, ?_⟩
    · calc
        (dashboard.items.map ItemSeries.document).map (Json.textUnder? "name") =
            dashboard.labels.map some := by
          rw [Dashboard.labels, List.map_map, List.map_map]
          rfl
        _ = (Tracker.ingest entries).items.map (fun item => some item.name) := by
          rw [labels, List.map_map]
          rfl
    · rw [Dashboard.find?_document]
      simp only [String.ofList_toList]
      cases dashboard.items.find? fun item => item.name = name with
      | none => rfl
      | some item => rfl

/-- Asking for an item by a name, every octet of it encoded, fits asking for the dashboard with the
same query: over every data file, default window and instant. -/
theorem respond_item (surroundings : Surroundings) {name : String} (named : name ≠ "")
    {segment : List Char} (spells : Percent.Spells segment (Text.Utf8.encode name.toList))
    (query : List Char) :
    ItemFits surroundings.file name
      (respond surroundings ⟨.get, "/dashboard".toList ++ '?' :: query⟩)
      (respond surroundings ⟨.get, Route.itemsPath ++ segment ++ '?' :: query⟩) := by
  have some_character : name.toList ≠ [] := by
    intro empty
    exact named (String.toList_eq_nil_iff.1 empty)
  have some_octet : segment ≠ [] := Percent.ne_nil_of_spells spells some_character
  rw [respond_dashboard, respond_itemsPath spells some_octet]
  exact itemFits_answer (Percent.decodePath?_of_spells spells) _

/-- An entry with a name and an instant and nothing else. -/
def namedEntry (name : String) : Json :=
  .obj [("name", .str name), ("timestamp", .str "2022-06-10T10:00:00")]

/-- A data file with such entries. -/
def namedFile (names : List String) : List UInt8 :=
  Text.Utf8.encode (Json.writeChars (Tracker.document (names.map namedEntry)))

theorem load_namedFile (names : List String) :
    Tracker.load (some (namedFile names)) = .ok (names.map namedEntry) := by
  have plain : ∀ entry ∈ names.map namedEntry, entry.Plain 125 := by
    rw [List.forall_mem_map]
    intro name _
    refine .obj (by simp) ?_
    simp only [List.forall_mem_cons]
    exact ⟨.str name, .str _, nofun⟩
  have same : ∀ entry ∈ names.map namedEntry, entry.arranged = entry := by
    rw [List.forall_mem_map]
    intro name _
    apply Json.arranged_of_ascending
    refine .obj ?_ ?_
    · simp only [List.pairwise_cons, List.forall_mem_cons]
      exact ⟨⟨(by decide : "name" < "timestamp"), nofun⟩, nofun, .nil⟩
    · simp only [List.forall_mem_cons]
      exact ⟨.str name, .str _, nofun⟩
  have read := Tracker.readEntries_of_spaced plain (Json.spaced_writeChars _)
  rw [namedFile, Tracker.load_of_readEntries read, List.map_congr_left same, List.map_id']

/-- A name with a slash in it leads to the item of that name, which the data file has behind another
one. -/
theorem respond_item_with_slash :
    let file := namedFile ["c", "a/b"]
    let whole := respond ⟨some file, 3600, ⟨1654862400, 0⟩⟩
      ⟨.get, "/dashboard".toList ++ '?' :: []⟩
    let single := respond ⟨some file, 3600, ⟨1654862400, 0⟩⟩
      ⟨.get, Route.itemsPath ++ Percent.encode "a/b".toList ++ '?' :: []⟩
    "a/b" ≠ "" ∧
      Percent.Spells (Percent.encode "a/b".toList) (Text.Utf8.encode "a/b".toList) ∧
      ItemFits (some file) "a/b" whole single ∧
      ∃ element, single = .ofJson element ∧ element.textUnder? "name" = some "a/b" := by
  intro file whole single
  have named : "a/b" ≠ "" := by decide
  have spells := Percent.spells_encode "a/b".toList
  have fits : ItemFits (some file) "a/b" whole single := respond_item _ named spells []
  refine ⟨named, spells, fits, ?_⟩
  have loaded : Tracker.load (some file) = .ok (["c", "a/b"].map namedEntry) := load_namedFile _
  have hour : (3600 : Float).isFinite = true := rfl
  obtain ⟨dashboard, -, -, answered⟩ :=
    @exists_answerDashboard ⟨some file, 3600, ⟨1654862400, 0⟩⟩ [] .unset rfl _ loaded hour
  have shown : whole = .ofJson dashboard.document := (respond_dashboard []).trans answered
  rcases fits with ⟨refused, -⟩ | ⟨-, entries, document, elements, read, -, -, names, found⟩
  · rw [shown] at refused
    exact absurd rfl refused
  · cases loaded.symm.trans read
    have ingested : (Tracker.ingest (["c", "a/b"].map namedEntry)).items.map
        (fun item => some item.name) = [some "c", some "a/b"] := rfl
    have among : some "a/b" ∈ elements.map (Json.textUnder? "name") := by
      rw [names, ingested]
      exact List.mem_cons_of_mem _ List.mem_cons_self
    obtain ⟨holder, isElement, hasName⟩ := List.mem_map.1 among
    cases first : elements.find? fun element => element.textUnder? "name" = some "a/b" with
    | none => exact absurd (decide_eq_true hasName) (List.find?_eq_none.1 first holder isElement)
    | some element =>
      rw [first] at found
      exact ⟨element, found, by simpa using List.find?_some first⟩

end Http

end SwarmChart
