import TypedRpc.Handler.Shaped
import TypedRpc.Text.Blank

/-! The sample handlers that greet. -/

namespace TypedRpc.Sample

open TypedRpc.Text TypedRpc.Wire

/-- Who is to be greeted. -/
structure Hello where
  name : String

/-- A greeting. -/
structure Greeting where
  message : String

/-- The greeting as it travels. -/
def Greeting.toWire (greeting : Greeting) : Value :=
  .record [("message", .text greeting.message)]

/-- Reads who is to be greeted. -/
def Hello.ofWire (value : Value) : Hello :=
  ⟨(value.member "name").textOr⟩

/-- Greets by name; a blank name is refused. -/
def hello (_ : Context) (input : Hello) : Outcome Greeting :=
  if (trim input.name).isEmpty then .failure (.ofMessage "name must not be empty")
  else .value ⟨"Hello, " ++ input.name ++ "!"⟩

/-- Greets by name and tells which handler does so, for which request. -/
def greet (context : Context) (input : Hello) : Outcome Greeting :=
  .value ⟨s!"{context.identity.key} greets {input.name} (request {context.requestId.print})"⟩

/-- The records of the greeter, in a module of the given path. -/
def greeterRecords (path : String) : List RecordDecl :=
  [
    ⟨path ++ "::Hello", "Hello", [.plain "name" .text], false, false⟩,
    ⟨path ++ "::Greeting", "Greeting", [.plain "message" .text], false, false⟩
  ]

end TypedRpc.Sample
