import SwarmChart.Proofs.Dashboard.WellFormed
import SwarmChart.Proofs.Http.Choice
import SwarmChart.Proofs.Http.Form
import SwarmChart.Proofs.Http.Items

/-!
# Answers with a dashboard

A dashboard is asked for with a query, and three things can be wrong: the query, the data file and
the length of the window. They are looked at in this order, and the first fault is the answer; where
there is none, the dashboard is that of the length which the query selects (`AnswersQuery`). All
this is found in the pairs of the query. Neither pairs with other keys matter nor in which way the
pairs are written. Their order decides nothing but the words about a faulty query, which are those
of its first fault (`respond_dashboard_by_pairs`).
-/

set_option autoImplicit false

namespace SwarmChart

/-- The length of its window that a dashboard's document shows. -/
def Json.windowSeconds? (document : Json) : Option Json :=
  (document.member? "window").bind (Json.member? "seconds")

theorem Dashboard.windowSeconds?_document (dashboard : Dashboard) :
    dashboard.document.windowSeconds? = some (.float dashboard.seconds) := rfl

/-- A length that is not finite is refused, whatever was ingested. -/
theorem Dashboard.ofIngested_of_endless (ingested : Tracker.Ingested) (now : Instant)
    {seconds : Float} (endless : seconds.isFinite = false) :
    ofIngested ingested now seconds = .error ⟨seconds⟩ := by
  rw [ofIngested, build, spanOfSeconds_eq, endless]
  rfl

namespace Http

/-- The request is a get of the dashboard, with or without a query. -/
structure AsksDashboard (request : Request) : Prop where
  isGet : request.method = .get
  path : (Target.ofText request.target).path = "/dashboard".toList

/-- The pairs of the query of a request. -/
def Request.pairs (request : Request) : List (String × String) :=
  Http.pairs (Target.ofText request.target).query

/-- A get of the dashboard with a query. -/
def dashboardRequest (query : List Char) : Request := ⟨.get, "/dashboard".toList ++ '?' :: query⟩

/-- The answer to a get of the dashboard, with the faults in the order in which they count. A fault of
the query is told in words, which are those of the first faulty pair. -/
structure AnswersQuery (surroundings : Surroundings) (pairs : List (String × String))
    (response : Response) : Prop where
  unsound : ¬ Sound pairs → ∃ error, FirstFault pairs error ∧
    response = .badRequest ("Failed to deserialize query string: " ++ error.message)
  unreadable : Sound pairs → ∀ error, Tracker.load surroundings.file = .error error →
    response = .bare 500
  selects : Sound pairs → ∃ seconds, Selects pairs surroundings.defaultWindow seconds
  endless : Sound pairs → ∀ entries, Tracker.load surroundings.file = .ok entries →
    ∀ seconds, Selects pairs surroundings.defaultWindow seconds → seconds.isFinite = false →
      response = .bare 400
  shown : Sound pairs → ∀ entries, Tracker.load surroundings.file = .ok entries →
    ∀ seconds, Selects pairs surroundings.defaultWindow seconds → seconds.isFinite = true →
      ∃ document, response = .ofJson document ∧ document.windowSeconds? = some (.float seconds) ∧
        (Dashboard.ofIngested (Tracker.ingest entries) surroundings.now seconds).map
          Dashboard.document = .ok document

variable {surroundings : Surroundings} {query other : List Char}

/-! ## The answer for a query -/

/-- Of the query only what it says about the window is looked at. -/
theorem answerDashboard_congr (same : WindowChoice.ofQuery query = WindowChoice.ofQuery other) :
    answerDashboard surroundings query = answerDashboard surroundings other := by
  rw [answerDashboard, answerDashboard, dashboardFor, dashboardFor, same]

/-- An unsound query is refused for its first fault. -/
theorem exists_answerDashboard_of_unsound (unsound : ¬ Sound (pairs query)) :
    ∃ error, FirstFault (pairs query) error ∧ answerDashboard surroundings query =
      .badRequest ("Failed to deserialize query string: " ++ error.message) := by
  obtain ⟨error, fault⟩ := WindowChoice.exists_firstFault unsound
  refine ⟨error, fault, ?_⟩
  rw [answerDashboard, dashboardFor_of_refused (WindowChoice.ofPairs_eq_error_iff.2 fault)]
  rfl

/-- The answer takes the faults in their order. -/
theorem answersQuery_answerDashboard (surroundings : Surroundings) (query : List Char) :
    AnswersQuery surroundings (pairs query) (answerDashboard surroundings query) where
  unsound := exists_answerDashboard_of_unsound
  unreadable := by
    intro sound error unreadable
    obtain ⟨choice, said⟩ := (WindowChoice.exists_ofPairs_iff _).2 sound
    rw [answerDashboard, dashboardFor_of_unreadable said unreadable]
    rfl
  selects := by
    intro sound
    obtain ⟨choice, said⟩ := (WindowChoice.exists_ofPairs_iff _).2 sound
    exact ⟨_, (WindowChoice.selects_iff said).2 rfl⟩
  endless := by
    intro sound entries loaded seconds selects endless
    obtain ⟨choice, said⟩ := (WindowChoice.exists_ofPairs_iff _).2 sound
    rw [answerDashboard, dashboardFor_of_loaded said loaded,
      ← (WindowChoice.selects_iff said).1 selects, Dashboard.ofIngested_of_endless _ _ endless]
    rfl
  shown := by
    intro sound entries loaded seconds selects finite
    obtain ⟨choice, said⟩ := (WindowChoice.exists_ofPairs_iff _).2 sound
    have selected := (WindowChoice.selects_iff said).1 selects
    subst selected
    obtain ⟨dashboard, built, length, answered⟩ := exists_answerDashboard said loaded finite
    refine ⟨dashboard.document, answered, ?_, ?_⟩
    · rw [dashboard.windowSeconds?_document, length]
    · rw [built]
      rfl

/-! ## Requests -/

/-- Of a request for the dashboard only its query matters. -/
theorem respond_of_asksDashboard (surroundings : Surroundings) {request : Request}
    (asks : AsksDashboard request) :
    respond surroundings request =
      answerDashboard surroundings (Target.ofText request.target).query := by
  unfold respond
  rw [asks.isGet]
  dsimp only
  rw [asks.path]
  rfl

theorem asksDashboard_dashboardRequest (query : List Char) :
    AsksDashboard (dashboardRequest query) where
  isGet := rfl
  path := by rw [dashboardRequest, Target.ofText_dashboard]

theorem pairs_dashboardRequest_of_writes {given : List (String × String)}
    (writes : Form.Writes query given) : (dashboardRequest query).pairs = given := by
  rw [Request.pairs, dashboardRequest, Target.ofText_dashboard]
  dsimp only
  rw [splitFirst_of_not_mem (Form.fragment_not_mem_of_writes writes), Form.pairs_of_writes writes]

/-- The same pairs of the two keys in the same order have the same answer, words included. -/
theorem respond_of_filter_eq {request another : Request} (asks : AsksDashboard request)
    (alsoAsks : AsksDashboard another)
    (same : request.pairs.filter choosesWindow = another.pairs.filter choosesWindow) :
    respond surroundings request = respond surroundings another := by
  rw [respond_of_asksDashboard _ asks, respond_of_asksDashboard _ alsoAsks]
  apply answerDashboard_congr
  rw [WindowChoice.ofQuery, WindowChoice.ofQuery, ← WindowChoice.ofPairs_filter,
    ← WindowChoice.ofPairs_filter (pairs _)]
  exact congrArg WindowChoice.ofPairs same

/-- A sound query has the same answer in every order of its pairs. -/
theorem respond_of_sound_of_perm {request another : Request} (asks : AsksDashboard request)
    (alsoAsks : AsksDashboard another) (sound : Sound request.pairs)
    (perm : (request.pairs.filter choosesWindow).Perm (another.pairs.filter choosesWindow)) :
    respond surroundings request = respond surroundings another := by
  rw [respond_of_asksDashboard _ asks, respond_of_asksDashboard _ alsoAsks]
  exact answerDashboard_congr (WindowChoice.ofPairs_of_perm sound perm)

/-- Unsound queries are all refused alike, except for the words. -/
theorem status_respond_of_unsound {request : Request} (asks : AsksDashboard request)
    (unsound : ¬ Sound request.pairs) : (respond surroundings request).status = 400 := by
  obtain ⟨error, -, answered⟩ := exists_answerDashboard_of_unsound unsound
  rw [respond_of_asksDashboard _ asks, answered]
  rfl

end Http

end SwarmChart
