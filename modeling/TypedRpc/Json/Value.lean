import TypedRpc.Number.Binary64

/-!
JSON values. Integers and floating-point numbers are kept apart, as a reader meets them. The members of an
object have an order; a value in canonical form has them sorted by name, each name once.
-/

namespace TypedRpc.Json

/-- A JSON value. -/
inductive Value where
  | null
  | bool (b : Bool)
  | integer (i : Int)
  | float (x : Binary64)
  | string (s : String)
  | array (items : List Value)
  | object (members : List (String × Value))
  deriving Inhabited

namespace Value

/-- The value of a member of an object. -/
def member? (name : String) : Value → Option Value
  | .object members => members.lookup name
  | _ => none

/-- The text, if the value is a string. -/
def text? : Value → Option String
  | .string s => some s
  | _ => none

/-- The items, if the value is an array. -/
def items? : Value → Option (List Value)
  | .array items => some items
  | _ => none

/-! ## Canonical form -/

/-- Sets a member of a sorted list of members: a new name goes where the order wants it, and an old one gets the
new value. Names are compared by their bytes in UTF-8, which is the order of their characters. -/
def setMember (name : String) (value : Value) : List (String × Value) → List (String × Value)
  | [] => [(name, value)]
  | (other, old) :: rest =>
    if name = other then (name, value) :: rest
    else if name < other then (name, value) :: (other, old) :: rest
    else (other, old) :: setMember name value rest

/-- The members sorted by name; of several with one name the last one counts. -/
def sortMembers (members : List (String × Value)) : List (String × Value) :=
  members.foldl (fun sorted (name, value) => setMember name value sorted) []

mutual

/-- The value with the members of every object in canonical form. -/
def canonical : Value → Value
  | .array items => .array (canonicalItems items)
  | .object members => .object (sortMembers (canonicalMembers members))
  | .null => .null
  | .bool b => .bool b
  | .integer i => .integer i
  | .float x => .float x
  | .string s => .string s

/-- The items, each in canonical form. -/
def canonicalItems : List Value → List Value
  | [] => []
  | item :: rest => item.canonical :: canonicalItems rest

/-- The members in their order, the value of each in canonical form. -/
def canonicalMembers : List (String × Value) → List (String × Value)
  | [] => []
  | (name, value) :: rest => (name, value.canonical) :: canonicalMembers rest

end

end Value

end TypedRpc.Json
