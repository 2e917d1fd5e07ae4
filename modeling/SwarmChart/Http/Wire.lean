import SwarmChart.Http.Service
import SwarmChart.Json.Writer

/-!
# Requests and answers on the wire

The first line of a request names its method and its target, and an answer is sent as a status
line, header lines and a body.
-/

set_option autoImplicit false

namespace SwarmChart.Http

/-- The request that its first line makes. -/
def Request.ofLine? (line : String) : Option Request :=
  match splitOn ' ' (Text.trim line.toList) with
  | [method, target, _] => some ⟨Method.ofName (String.ofList method), target⟩
  | _ => none

/-- The words for a status. -/
def reason (status : Nat) : String :=
  if status = 200 then "OK"
  else if status = 400 then "Bad Request"
  else if status = 404 then "Not Found"
  else if status = 405 then "Method Not Allowed"
  else "Internal Server Error"

namespace Response

/-- The text of a body. -/
def bodyText (response : Response) : String :=
  match response.body with
  | .empty => ""
  | .text text => text
  | .json value => value.write

/-- The header lines of an answer. -/
def headers (response : Response) : List String :=
  let type :=
    match response.contentType with
    | some type => ["content-type: " ++ type]
    | none => []
  let length := String.ofList (Decimal.digits response.bodyText.utf8ByteSize)
  type ++ ["access-control-allow-origin: " ++ allowOrigin, "content-length: " ++ length]

/-- The whole answer. -/
def write (response : Response) : String :=
  let status := String.ofList (Decimal.digits response.status)
  let lines := ("HTTP/1.1 " ++ status ++ " " ++ reason response.status) :: response.headers
  String.join (lines.map (· ++ "\r\n")) ++ "\r\n" ++ response.bodyText

end Response

end SwarmChart.Http
