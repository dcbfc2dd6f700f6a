/-!
Failures that are reported: a message, and the messages of what caused it, the nearest cause first.
-/

namespace TypedRpc

/-- A failure with its causes. -/
structure Failure where
  message : String
  causes : List String
  deriving DecidableEq, Repr, Inhabited

namespace Failure

/-- A failure without a cause. -/
def ofMessage (message : String) : Failure :=
  ⟨message, []⟩

/-- The failure as the cause of another one. -/
def inContext (failure : Failure) (message : String) : Failure :=
  ⟨message, failure.message :: failure.causes⟩

end Failure

end TypedRpc
