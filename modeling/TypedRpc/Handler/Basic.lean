import TypedRpc.Failure
import TypedRpc.Http.Message
import TypedRpc.Http.RequestId
import TypedRpc.Json.Fault
import TypedRpc.Route.Identity

/-!
Handlers. A handler decodes the body of a request, computes a result in the context of the request, and encodes
it. Whatever happens, the request is answered once, and the answer carries the id of the request; the failures
that the handler itself reports are passed on to an observer if there is one.
-/

namespace TypedRpc

open TypedRpc.Http

/-- What a handler sees besides its input. -/
structure Context where
  requestId : RequestId
  identity : RouteIdentity
  path : String
  headers : Headers

/-- The context of a request to the handler of an identity, with the id that it gets if it carries none. -/
def Context.ofRequest (identity : RouteIdentity) (request : Request) (new : RequestId) : Context :=
  ⟨RequestId.ofHeaders request.headers new, identity, request.path, request.headers⟩

/-- What comes of a handler: a value, a failure that it reports, or a breakdown. -/
inductive Outcome (β : Type) where
  | value (output : β)
  | failure (failure : Failure)
  | panic

/-- Why a value has no JSON form. -/
inductive EncodeError where
  /-- An object would need a key that is not a string. -/
  | keyNotString
  deriving DecidableEq, Repr

/-- The text of an encoding error. -/
def EncodeError.message : EncodeError → String
  | .keyNotString => "key must be a string"

/-- A handler with its input and output. -/
structure Handler (α β : Type) where
  decode : List UInt8 → Except Json.DecodeError α
  run : Context → α → Outcome β
  encode : β → Except EncodeError Json.Value

/-- A failure that a handler reported, as its observer gets it. -/
structure Observation where
  identity : RouteIdentity
  failure : Failure

/-- A mounted handler: from a request, and the id that it gets if it carries none, to the response and what the
observer is told. -/
abbrev Route := Request → RequestId → Response × List Observation

namespace Handler

variable {α β : Type}

/-- The response to an outcome. -/
def respond (handler : Handler α β) : Outcome β → Response
  | .value output =>
    match handler.encode output with
    | .ok body => .json 200 body.canonical
    | .error e => .error 500 ("failed to encode response: " ++ e.message)
  | .failure failure => .error 400 failure.message
  | .panic => .error 500 "handler panicked"

/-- What the observer is told of an outcome. -/
def observe (identity : RouteIdentity) : Outcome β → List Observation
  | .failure failure => [⟨identity, failure⟩]
  | _ => []

/-- The response to a body, and what the observer is told. The handler is run by `run`, whatever else that does. -/
def answer {m : Type → Type} [Monad m] (handler : Handler α β) (run : Context → α → m (Outcome β))
    (context : Context) (body : List UInt8) : m (Response × List Observation) :=
  match handler.decode body with
  | .error e => pure (.error 400 e.message, [])
  | .ok input => do
    let outcome ← run context input
    pure (handler.respond outcome, observe context.identity outcome)

/-- The answer to a request, with the handler mounted for an identity and run by `run`. -/
def serve {m : Type → Type} [Monad m] (handler : Handler α β) (run : Context → α → m (Outcome β))
    (identity : RouteIdentity) (observed : Bool) (request : Request) (new : RequestId) :
    m (Response × List Observation) := do
  let context := Context.ofRequest identity request new
  let (response, observations) ← handler.answer run context request.body
  pure (response.setHeader RequestId.header context.requestId.print, if observed then observations else [])

/-- The handler as it is mounted for an identity. -/
def route (handler : Handler α β) (identity : RouteIdentity) (observed : Bool) : Route := fun request new =>
  Id.run (handler.serve (fun context input => pure (handler.run context input)) identity observed request new)

end Handler

end TypedRpc
