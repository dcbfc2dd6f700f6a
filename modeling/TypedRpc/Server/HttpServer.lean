import TypedRpc.Json.Printer
import TypedRpc.Router
import TypedRpc.Server.Settings

/-!
The server in front of a router. A request reaches the handler mounted at its path if it is posted and its body is
not too large; otherwise it is refused, for the first reason in this order: nothing is mounted there, it is not
posted, its body is too large. Every response carries the id of the request.
-/

namespace TypedRpc.Server

open TypedRpc.Http TypedRpc.Text

/-- A server. -/
structure HttpServer where
  router : Router
  /-- How many requests it works on at a time. -/
  workers : Nat
  /-- The size of the largest body that it accepts. -/
  maxBodyBytes : Nat

/-- A request as it arrives. -/
structure RawRequest where
  method : String
  /-- The path, and the query after a question mark. -/
  target : String
  headers : Headers
  /-- The size of the body, if it is told before the body. -/
  declaredLength : Option Nat
  body : List UInt8

/-- A response as it is sent. -/
structure RawResponse where
  status : Nat
  headers : Headers
  body : String

/-- The server of a router with some settings; at least one request is worked on at a time. -/
def HttpServer.ofSettings (router : Router) (settings : Settings) : HttpServer :=
  ⟨router, max settings.workers 1, settings.maxBodyBytes⟩

/-- The path of a target: what comes before the query. -/
def pathOf (target : String) : String :=
  match splitFirst '?' target.toList with
  | some (path, _) => String.ofList path
  | none => target

/-- The response to a request for which no handler is mounted. -/
def notFound (path : String) : Response :=
  .error 404 ("no route for " ++ path)

/-- The response to a request that is not posted. -/
def methodNotAllowed : Response :=
  (Response.error 405 "method not allowed, use POST").setHeader "Allow" "POST"

/-- The response to a request whose body is too large. -/
def tooLarge (maxBodyBytes : Nat) : Response :=
  .error 413 s!"request body exceeds {maxBodyBytes} bytes"

namespace HttpServer

/-- How much of a body is read: one byte more than is accepted shows that it is too large. -/
def readLimit (server : HttpServer) : Nat :=
  min (server.maxBodyBytes + 1) (Nat.pow 2 64 - 1)

/-- The response of the handler that a request is meant for, or the refusal. -/
def handle (server : HttpServer) (request : RawRequest) (new : RequestId) : Response × List Observation :=
  let path := pathOf request.target
  match server.router.route? path with
  | none => (notFound path, [])
  | some route =>
    if request.method ≠ "POST" then (methodNotAllowed, [])
    else if request.declaredLength.any (server.maxBodyBytes < ·) then (tooLarge server.maxBodyBytes, [])
    else
      let body := request.body.take server.readLimit
      if server.maxBodyBytes < body.length then (tooLarge server.maxBodyBytes, [])
      else route ⟨path, request.headers, body⟩ new

/-- The response with the id of the request, unless it has one already. -/
def identify (headers : Headers) (new : RequestId) (response : Response) : Response :=
  match response.headers.get? RequestId.header with
  | some _ => response
  | none => response.setHeader RequestId.header (RequestId.ofHeaders headers new).print

/-- The response to a request, and what the observer of the handlers is told. -/
def answer (server : HttpServer) (request : RawRequest) (new : RequestId) : Response × List Observation :=
  let (response, observations) := server.handle request new
  (identify request.headers new response, observations)

end HttpServer

/-! ## Responses on the wire -/

/-- Headers about the connection, which are not for handlers to set. -/
def connectionHeaders : List String :=
  ["Connection", "Trailer", "Transfer-Encoding", "Upgrade", "Content-Length"]

/-- The text is plain ASCII. -/
def isAscii (s : String) : Bool :=
  s.toList.all fun c => c.toNat < 128

/-- A header can be sent. -/
def isSendable (header : String × String) : Bool :=
  isAscii header.1 && isAscii header.2 && !connectionHeaders.any (sameName header.1)

/-- Adds a header to those that are sent. There is one type of the content, and a later one replaces it. -/
def addHeader (sent : Headers) (header : String × String) : Headers :=
  if sameName header.1 "Content-Type" then
    sent.map fun (name, value) => if sameName name "Content-Type" then (name, header.2) else (name, value)
  else sent ++ [header]

/-- The headers that are sent with a response. -/
def wireHeaders (headers : Headers) : Headers :=
  (headers.filter isSendable).foldl addHeader [("Content-Type", "application/json")]

/-- The response to a request of some method as it is sent; one to a request for the head alone has no body. -/
def RawResponse.ofResponse (method : String) (response : Response) : RawResponse :=
  ⟨response.status, wireHeaders response.headers, if method = "HEAD" then "" else response.body.print⟩

end TypedRpc.Server
