import TypedRpc.Handler.Basic
import TypedRpc.Text.Quoted
import TypedRpc.Text.Split

/-!
A router: the mounted handlers by path, in the order in which the paths were first mounted. Mounting at a path
again replaces the handler and keeps its place.
-/

namespace TypedRpc

open TypedRpc.Http TypedRpc.Text

/-- The mounted handlers by path. -/
structure Router where
  routes : List (String × Route)

namespace Router

/-- A router without handlers. -/
def empty : Router :=
  ⟨[]⟩

/-- Sets the entry of a path: in its place if the path has one, at the end otherwise. -/
def setRoute (path : String) (route : Route) : List (String × Route) → List (String × Route)
  | [] => [(path, route)]
  | (other, old) :: rest =>
    if other = path then (path, route) :: rest else (other, old) :: setRoute path route rest

/-- Mounts a handler at a path. -/
def mount (router : Router) (path : String) (route : Route) : Router :=
  ⟨setRoute path route router.routes⟩

/-- The handler at a path. -/
def route? (router : Router) (path : String) : Option Route :=
  router.routes.lookup path

/-- The mounted paths, in order. -/
def paths (router : Router) : List String :=
  router.routes.map (·.1)

/-- The answer of the handler at the path of a request. -/
def dispatch (router : Router) (request : Request) (new : RequestId) : Option (Response × List Observation) :=
  (router.route? request.path).map fun route => route request new

/-- The router written out for inspection. -/
def inspect (router : Router) : String :=
  "MemoryRouter \x7b routes: [" ++ join ", " (router.paths.map quote) ++ "] \x7d"

end Router

end TypedRpc
