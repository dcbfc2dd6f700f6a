import TypedRpc.Route.Identity
import TypedRpc.Text.Quoted

/-!
Where handlers are mounted: the mount path, which ends in at most one slash that counts, and the path of each
handler below it.
-/

namespace TypedRpc

open TypedRpc.Text

/-- Where handlers are mounted, and whether somebody listens to their errors. -/
structure Mount where
  /-- The path below which all handlers lie. -/
  path : String
  /-- The errors of handlers are reported. -/
  observed : Bool
  deriving DecidableEq, Repr

namespace Mount

/-- The mount at the root, without an observer. -/
def root : Mount :=
  ⟨"/", false⟩

/-- The mount at a path; an empty path is the root. -/
def below (path : String) : Mount :=
  if path.isEmpty then root else { root with path }

/-- The text without one slash at its end. -/
def dropTrailingSlash (path : String) : String :=
  match path.toList.reverse with
  | '/' :: rest => String.ofList rest.reverse
  | _ => path

/-- The path at which a handler is mounted. -/
def routeOf (mount : Mount) (identity : RouteIdentity) : String :=
  dropTrailingSlash mount.path ++ "/" ++ identity.key

/-- The mount written out for inspection. -/
def inspect (mount : Mount) : String :=
  "Config \x7b mount_path: " ++ quote mount.path ++ s!", on_error: {mount.observed} \x7d"

end Mount

end TypedRpc
