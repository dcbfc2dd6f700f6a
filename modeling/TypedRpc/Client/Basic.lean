import TypedRpc.Registry
import TypedRpc.TypeScript.PascalCase

/-!
The client module for the handlers of a registry: the definitions of all types that they use, an alias block for
each handler, and its methods, grouped by namespace. The types of all handlers are compiled by one compiler in
the order of registration, so each named type is defined once.
-/

namespace TypedRpc

open TypedRpc.TypeScript

namespace Client

/-- The types of a handler as the client exports them, under names that begin with `stem`. -/
structure Alias where
  stem : String
  input : TypeExpr
  output : TypeExpr
  /-- The method takes an argument. -/
  takesInput : Bool

/-- A method of the client. -/
structure Method where
  name : String
  /-- The stem of the aliases of its handler. -/
  stem : String
  /-- The key of its handler, which the request is sent to. -/
  key : String
  takesInput : Bool
  deriving DecidableEq

/-- The methods of a namespace. -/
structure Group where
  ns : String
  methods : List Method
  deriving DecidableEq

/-- The stem of the aliases of a handler. -/
def stemOf (identity : RouteIdentity) : String :=
  aliasWord identity.ns ++ aliasWord identity.name

/-- The aliases of a handler. -/
def aliasOf (registration : Registration) (compiled : Registry.CompiledSignature) : Alias where
  stem := stemOf registration.identity
  input := compiled.input
  output := compiled.output
  takesInput := !registration.inputIsEmpty

/-- The method of a handler. -/
def methodOf (registration : Registration) : Method where
  name := registration.identity.name
  stem := stemOf registration.identity
  key := registration.identity.key
  takesInput := !registration.inputIsEmpty

/-- Adds a method at the end of the group of its namespace, which is made at the end if there is none. -/
def addMethod (ns : String) (method : Method) : List Group → List Group
  | [] => [⟨ns, [method]⟩]
  | group :: rest =>
    if group.ns = ns then { group with methods := group.methods ++ [method] } :: rest
    else group :: addMethod ns method rest

/-- The methods of the handlers, grouped by namespace in the order in which the namespaces first occur. -/
def groupsOf (registrations : List Registration) : List Group :=
  registrations.foldl (fun groups registration =>
    addMethod registration.identity.ns (methodOf registration) groups) []

/-- Compiles the types of handlers one after the other. -/
def compileAll (slots : SlotTable) : List Registration → Compiler.Step (List Alias)
  | [], c => (.ok [], c)
  | registration :: rest, c =>
    match Registry.compileSignature slots registration.signature c with
    | (.error e, c) => (.error e, c)
    | (.ok compiled, c) =>
      let (result, c) := compileAll slots rest c
      (result.map (aliasOf registration compiled :: ·), c)

end Client

/-- A client module. -/
structure Client where
  definitions : List Definition
  aliases : List Client.Alias
  groups : List Client.Group

/-- The client of the registered handlers. -/
def Client.ofRegistry (registry : Registry) : Except GenerationError Client :=
  match Client.compileAll registry.slots registry.registrations .empty with
  | (.error e, _) => .error e
  | (.ok aliases, c) => .ok ⟨c.definitions, aliases, Client.groupsOf registry.registrations⟩

end TypedRpc
