import TypedRpc.Text.Split

/-!
Names of types. A qualified name such as `app::pkg.Greeting` is a path of segments; its TypeScript name is
the type segment with one or more module segments in front, joined by underscores. Several qualified names
can have the same short name, so a longer one exists for each further module segment.
-/

namespace TypedRpc.TypeScript

open TypedRpc.Text

/-- The non-empty segments of a qualified name, which `::` and `.` separate. -/
def segments (qualified : String) : List String :=
  ((splitPairs ':' qualified.toList).flatMap (splitWhere (· = '.'))).filterMap fun segment =>
    if segment.isEmpty then none else some (String.ofList segment)

/-- The text under which a compiler knows a qualified name. -/
def keyOf (segments : List String) : String :=
  join "::" segments

/-- The type segment with `1 + extra` module segments in front, as long as there are that many. A type segment
that stands alone is its own name and has no longer one. -/
def scopedName? (segments : List String) (extra : Nat) : Option String :=
  match segments with
  | [] => none
  | [name] => if extra = 0 then some name else none
  | _ =>
    if extra + 2 ≤ segments.length then some (join "_" (segments.drop (segments.length - (extra + 2))))
    else none

/-- The shortest name of a qualified name; empty when it has no segments. -/
def typeName (qualified : String) : String :=
  (scopedName? (segments qualified) 0).getD ""

end TypedRpc.TypeScript
