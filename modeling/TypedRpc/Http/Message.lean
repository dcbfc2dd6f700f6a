import TypedRpc.Http.Headers
import TypedRpc.Json.Printer

/-!
Requests to handlers and their responses. A response carries JSON; one that reports an error carries an object
with a message.
-/

namespace TypedRpc.Http

/-- A request to a mounted handler. -/
structure Request where
  /-- The path, without the query. -/
  path : String
  headers : Headers
  body : List UInt8

/-- The response of a handler. -/
structure Response where
  status : Nat
  /-- The headers besides the type of the content, which is always JSON. -/
  headers : Headers
  body : Json.Value

namespace Response

/-- A response without headers. -/
def json (status : Nat) (body : Json.Value) : Response :=
  ⟨status, [], body⟩

/-- A response that reports an error. -/
def error (status : Nat) (message : String) : Response :=
  json status (.object [("message", .string message)])

/-- The message in the body, if there is one. -/
def message? (response : Response) : Option String :=
  (response.body.member? "message").bind (·.text?)

/-- The response with one header of a name, at the end. -/
def setHeader (response : Response) (name value : String) : Response :=
  { response with headers := response.headers.set name value }

/-- The response as JSON: the status and the body. -/
def toJson (response : Response) : Json.Value :=
  .object [("status", .integer response.status), ("body", response.body)]

end Response

end TypedRpc.Http
