import SwarmChart.Http.Query

/-!
# Request targets

A target is cut into its path and its query before anything in it is decoded. A target that names
the server as well loses that part, and a fragment is dropped.

`Route.ofPath?` says what a path leads to. Paths match exactly. The name of an item is a single
segment that is not empty, and it is decoded only after the path was cut into segments, so an
encoded slash belongs to the name.
-/

set_option autoImplicit false

namespace SwarmChart.Http

/-- A target cut into its parts, nothing decoded. -/
structure Target where
  path : List Char
  query : List Char
  deriving DecidableEq, Repr

namespace Target

/-- The text behind the first colon and two slashes, if there are such. -/
def behindScheme? : List Char → Option (List Char)
  | ':' :: '/' :: '/' :: rest => some rest
  | _ :: rest => behindScheme? rest
  | [] => none

/-- The character ends the name of a server. -/
def endsServer (c : Char) : Bool := c = '/' || c = '?'

/-- The target without the name of a server. -/
def withoutServer (text : List Char) : List Char :=
  if text.head? = some '/' then text
  else
    match behindScheme? text with
    | none => text
    | some rest =>
      let rest := rest.dropWhile fun c => !endsServer c
      -- A query may follow the server at once; its path is then the root.
      if rest.head? = some '/' then rest else '/' :: rest

/-- Cuts a target into its parts. -/
def ofText (text : List Char) : Target :=
  let (path, query) := splitFirst '?' (withoutServer (splitFirst '#' text).1)
  ⟨path, query⟩

end Target

/-- What a path leads to. -/
inductive Route where
  | root
  | health
  | dashboard
  /-- The series of one item, whose name is not decoded yet. -/
  | item (segment : List Char)
  deriving DecidableEq, Repr

namespace Route

/-- The path of the items without a name. -/
def itemsPath : List Char := ['/', 'i', 't', 'e', 'm', 's', '/']

/-- What a path leads to, if to anything. -/
def ofPath? (path : List Char) : Option Route :=
  if path = ['/'] then some root
  else if path = "/health".toList then some health
  else if path = "/dashboard".toList then some dashboard
  else if itemsPath.isPrefixOf path then
    let segment := path.drop itemsPath.length
    if segment.isEmpty || segment.contains '/' then none else some (item segment)
  else none

end Route

end SwarmChart.Http
