import SwarmChart.Dashboard
import SwarmChart.Http.Target
import SwarmChart.Tracker.DataFile

/-!
# The service

`respond` answers one request. Besides the request it is given everything that an answer depends
on: the octets of the data file at the moment, if there is one, the default length of a window and
the present instant. Nothing is kept from one request to the next.

For a known path and method the query is checked first, then the file, then the length of the
window, and the name of an item last. The first of them that is wrong is the `Refusal`. What is
wrong with a query is told in words; every other refusal says nothing but its status.
-/

set_option autoImplicit false

namespace SwarmChart.Http

/-- The method of a request, as far as it matters. -/
inductive Method where
  | get
  /-- A get whose answer goes out without its body. -/
  | head
  | options
  | other
  deriving DecidableEq, Repr

/-- The method of a name. -/
def Method.ofName (name : String) : Method :=
  if name = "GET" then get
  else if name = "HEAD" then head
  else if name = "OPTIONS" then options
  else other

/-- A request. -/
structure Request where
  method : Method
  target : List Char
  deriving DecidableEq, Repr

/-- The body of an answer. -/
inductive Body where
  | empty
  | text (text : String)
  | json (value : Json)
  deriving Repr

/-- An answer. -/
structure Response where
  status : Nat
  contentType : Option String
  body : Body
  deriving Repr

namespace Response

/-- The origins that may read an answer: all of them. -/
def allowOrigin : String := "*"

/-- An answer that says nothing but its status. -/
def bare (status : Nat) : Response := ⟨status, none, .empty⟩

/-- A document. -/
def ofJson (value : Json) : Response := ⟨200, some "application/json", .json value⟩

/-- The type of a plain text. -/
def plainText : String := "text/plain; charset=utf-8"

/-- A plain text. -/
def ofText (text : String) : Response := ⟨200, some plainText, .text text⟩

/-- The refusal of a request that says something wrong, and what. -/
def badRequest (text : String) : Response := ⟨400, some plainText, .text text⟩

/-- The answer without its body. -/
def withoutBody (response : Response) : Response := { response with body := .empty }

end Response

/-- What an answer depends on besides the request. -/
structure Surroundings where
  /-- The octets of the data file, if there is one. -/
  file : Option (List UInt8)
  /-- The length of the window in seconds where a request names none. -/
  defaultWindow : Float
  now : Instant

/-- The greeting at the root. -/
def greeting : String := "Swarm Dashboard API v0.1.0"

/-- The document that says that the service is up. -/
def healthDocument (now : Instant) : Json :=
  .obj [("status", .str "healthy"), ("timestamp", .str (Timestamp.write now ++ "+00:00"))]

/-- Why there is no dashboard to show. -/
inductive Refusal where
  | query (error : QueryError)
  | file (error : Tracker.LoadError)
  | length (invalid : Window.InvalidLength)

/-- The answer where there is no dashboard to show. -/
def Refusal.response : Refusal → Response
  | query error => .badRequest ("Failed to deserialize query string: " ++ error.message)
  | file _ => .bare 500
  | length _ => .bare 400

/-- The dashboard that a query asks for. -/
def dashboardFor (surroundings : Surroundings) (query : List Char) : Except Refusal Dashboard :=
  match WindowChoice.ofQuery query with
  | .error error => .error (.query error)
  | .ok choice =>
    match Tracker.load surroundings.file with
    | .error error => .error (.file error)
    | .ok entries =>
      (Dashboard.ofIngested (Tracker.ingest entries) surroundings.now
        (choice.seconds surroundings.defaultWindow)).mapError .length

/-- The answer with the whole dashboard. -/
def answerDashboard (surroundings : Surroundings) (query : List Char) : Response :=
  match dashboardFor surroundings query with
  | .error refusal => refusal.response
  | .ok dashboard => .ofJson dashboard.document

/-- The answer with the series of one item, the first one of that name. -/
def answerItem (surroundings : Surroundings) (segment query : List Char) : Response :=
  match Percent.decodePath? segment with
  | none => .badRequest "Invalid URL: Invalid UTF-8 in `name`"
  | some name =>
    match dashboardFor surroundings query with
    | .error refusal => refusal.response
    | .ok dashboard =>
      match dashboard.items.find? fun item => item.name = String.ofList name with
      | some item => .ofJson item.document
      | none => .bare 404

/-- The answer that a route gives to a get. -/
def answer (surroundings : Surroundings) (query : List Char) : Route → Response
  | .root => .ofText greeting
  | .health => .ofJson (healthDocument surroundings.now)
  | .dashboard => answerDashboard surroundings query
  | .item segment => answerItem surroundings segment query

/-- The answer to a request. Any path may be asked for its options, since scripts of every origin
are served. -/
def respond (surroundings : Surroundings) (request : Request) : Response :=
  let target := Target.ofText request.target
  match request.method with
  | .options => .bare 200
  | method =>
    match Route.ofPath? target.path with
    | none => .bare 404
    | some route =>
      -- A method is refused only where the path leads somewhere.
      match method with
      | .get => answer surroundings target.query route
      | .head => (answer surroundings target.query route).withoutBody
      | _ => .bare 405

end SwarmChart.Http
