import TypedRpc.Json.Literal
import TypedRpc.Json.Value
import TypedRpc.Text.Split

/-!
The compact text of a JSON value: no blanks, members in the order in which the object holds them.
-/

namespace TypedRpc.Json.Value

open TypedRpc.Text

mutual

/-- The text of a value. -/
def print : Value → String
  | .null => "null"
  | .bool b => if b then "true" else "false"
  | .integer i => toString i
  | .float x => floatLiteral x
  | .string s => stringLiteral s
  | .array items => "[" ++ join "," (printItems items) ++ "]"
  | .object members => "\x7b" ++ join "," (printMembers members) ++ "\x7d"

/-- The texts of the items. -/
def printItems : List Value → List String
  | [] => []
  | item :: rest => item.print :: printItems rest

/-- The texts of the members, each a name and a value. -/
def printMembers : List (String × Value) → List String
  | [] => []
  | (name, value) :: rest => (stringLiteral name ++ ":" ++ value.print) :: printMembers rest

end

end TypedRpc.Json.Value
