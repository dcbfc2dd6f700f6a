import TypedRpc.Compiler.Compile
import TypedRpc.Route.Mount
import TypedRpc.Router

/-!
The registry of handlers. Registering a handler under an identity mounts it on a router and records what its
input and output look like; an identity can be taken only once.
-/

namespace TypedRpc

open TypedRpc.Http TypedRpc.TypeScript

/-- What the types of a handler look like. -/
structure Signature where
  input : Descriptor
  output : Descriptor

/-- A registered handler. -/
structure Registration where
  identity : RouteIdentity
  /-- The path at which it is mounted. -/
  route : String
  signature : Signature
  /-- The input is a composite without fields, so a client has nothing to send. -/
  inputIsEmpty : Bool

/-- Why a handler cannot be registered. -/
inductive RegistryError where
  | duplicate (key : String)
  deriving DecidableEq, Repr

/-- The text of a registry error. -/
def RegistryError.message : RegistryError → String
  | .duplicate key => s!"a handler is already registered for '{key}'"

/-- The registered handlers by key, in the order of their registration. -/
structure Registry where
  mount : Mount
  /-- The slots of the types that handlers use. -/
  slots : SlotTable
  handlers : List (String × Registration)

namespace Registry

/-- A registry without handlers. -/
def empty (mount : Mount) (slots : SlotTable) : Registry :=
  ⟨mount, slots, []⟩

/-- The handler of a key. -/
def get? (registry : Registry) (key : String) : Option Registration :=
  registry.handlers.lookup key

/-- The handlers in order. -/
def registrations (registry : Registry) : List Registration :=
  registry.handlers.map (·.2)

/-- What is recorded of a handler. -/
def record (registry : Registry) (identity : RouteIdentity) (signature : Signature) : Registration where
  identity
  route := registry.mount.routeOf identity
  signature
  inputIsEmpty := signature.input.isEmptyComposite registry.slots

/-- Registers a handler and mounts it, unless its key is taken. -/
def register {α β : Type} (registry : Registry) (router : Router) (identity : RouteIdentity)
    (signature : Signature) (handler : Handler α β) :
    Except RegistryError (Registration × Registry × Router) :=
  match registry.get? identity.key with
  | some _ => .error (.duplicate identity.key)
  | none =>
    let entry := registry.record identity signature
    .ok (entry, { registry with handlers := registry.handlers ++ [(identity.key, entry)] },
      router.mount entry.route (handler.route identity registry.mount.observed))

/-- The type expressions of a handler's input and output. -/
structure CompiledSignature where
  input : TypeExpr
  output : TypeExpr

/-- Compiles the types of a handler, the input first. -/
def compileSignature (slots : SlotTable) (signature : Signature) : Compiler.Step CompiledSignature := fun c =>
  match c.compile slots signature.input with
  | (.error e, c) => (.error e, c)
  | (.ok input, c) =>
    match c.compile slots signature.output with
    | (.error e, c) => (.error e, c)
    | (.ok output, c) => (.ok ⟨input, output⟩, c)

/-- The types of one handler compiled on their own, with the definitions that they need. -/
def describe (registry : Registry) (registration : Registration) :
    Except GenerationError (CompiledSignature × List Definition) :=
  match compileSignature registry.slots registration.signature .empty with
  | (.error e, _) => .error e
  | (.ok compiled, c) => .ok (compiled, c.definitions)

end Registry

end TypedRpc
