import TypedRpc.Handler.Shaped

/-!
A service: a registry together with the router on which its handlers are mounted. A setup registers handlers one
after the other and ends at the first that fails; what was registered before stays.
-/

namespace TypedRpc

/-- A registry and its router. -/
structure Service where
  registry : Registry
  router : Router

/-- Registers handlers; the service is kept when that fails. -/
abbrev Setup := ExceptT Failure (StateM Service)

namespace Service

/-- A service without handlers. -/
def empty (mount : Mount) (slots : SlotTable) : Service :=
  ⟨.empty mount slots, .empty⟩

/-- Registers a handler. -/
def register {α β : Type} (service : Service) (identity : RouteIdentity) (signature : Signature)
    (handler : Handler α β) : Except RegistryError (Registration × Service) :=
  match service.registry.register service.router identity signature handler with
  | .error e => .error e
  | .ok (registration, registry, router) => .ok (registration, ⟨registry, router⟩)

/-- Runs a setup. -/
def setUp (service : Service) (setup : Setup Unit) : Except Failure Unit × Service :=
  setup.run.run service

end Service

namespace Setup

/-- Registers the handler written as `itemPath` in a module. -/
def handler {α β : Type} (modulePath itemPath : String) (signature : Signature) (handler : Handler α β) :
    Setup Unit := do
  match RouteIdentity.resolve modulePath itemPath with
  | .error e => throw (.ofMessage e.message)
  | .ok identity =>
    match (← get).register identity signature handler with
    | .error e => throw (.ofMessage e.message)
    | .ok (_, service) => set service

end Setup

end TypedRpc
