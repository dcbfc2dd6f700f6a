import TypedRpc.Json.Value

/-!
Values of wire types. They say more than their JSON form: a value that may be missing is told apart from one
that is there, and a record from a table. Encoding forgets the difference.
-/

namespace TypedRpc.Wire

/-- A value that travels as JSON. -/
inductive Value where
  | unit
  | bool (b : Bool)
  | integer (i : Int)
  | float (x : Binary64)
  | text (s : String)
  /-- A value that may be missing, and is. -/
  | absent
  /-- A value that may be missing, but is there. -/
  | present (value : Value)
  | list (items : List Value)
  /-- A map from texts, sorted by key. -/
  | table (entries : List (String × Value))
  /-- A composite: the members that it writes, in declaration order. -/
  | record (members : List (String × Value))
  /-- Any JSON. -/
  | json (value : Json.Value)
  deriving Inhabited

namespace Value

mutual

/-- The JSON form of a value. -/
def encode : Value → Json.Value
  | .unit => .null
  | .bool b => .bool b
  | .integer i => .integer i
  | .float x => .float x
  | .text s => .string s
  | .absent => .null
  | .present value => value.encode
  | .list items => .array (encodeItems items)
  | .table entries => .object (encodeMembers entries)
  | .record members => .object (encodeMembers members)
  | .json value => value

/-- The JSON forms of the items. -/
def encodeItems : List Value → List Json.Value
  | [] => []
  | item :: rest => item.encode :: encodeItems rest

/-- The members, each with the JSON form of its value. -/
def encodeMembers : List (String × Value) → List (String × Json.Value)
  | [] => []
  | (name, value) :: rest => (name, value.encode) :: encodeMembers rest

end

/-! ## Reading values -/

/-- An alternative written out for inspection, given its payload written out. -/
def inspectChoice : Option String → String
  | some payload => "Choice(Some(" ++ payload ++ "))"
  | none => "Choice(None)"

/-- The member of a record; absent if the record does not write it. -/
def member (name : String) : Value → Value
  | .record members => (members.lookup name).getD .absent
  | _ => .absent

/-- The payload of a value that may be missing. -/
def payload? : Value → Option Value
  | .absent => none
  | .present value => some value
  | value => some value

/-- The text; empty if the value is none. -/
def textOr : Value → String
  | .text s => s
  | _ => ""

/-- The integer; zero if the value is none. -/
def integerOr : Value → Int
  | .integer i => i
  | _ => 0

end Value

end TypedRpc.Wire
