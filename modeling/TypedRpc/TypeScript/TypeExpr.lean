import TypedRpc.Text.Split
import TypedRpc.TypeScript.PropertyName

/-!
Type expressions of the client language, and their text. Only the forms that describe JSON occur: the keywords,
references to definitions, arrays that may be null, and object types. A definition gives an object type a name.
-/

namespace TypedRpc.TypeScript

open TypedRpc.Text

/-- The built-in types. -/
inductive Keyword where
  | string
  | number
  | boolean
  | any
  deriving DecidableEq, Repr

/-- The spelling of a built-in type. -/
def Keyword.print : Keyword → String
  | .string => "string"
  | .number => "number"
  | .boolean => "boolean"
  | .any => "any"

mutual

/-- A type expression. -/
inductive TypeExpr where
  | keyword (word : Keyword)
  /-- A defined type, by its name. -/
  | reference (name : String)
  /-- An array of elements, or null. -/
  | nullableArray (element : TypeExpr)
  | object (members : List Member)

/-- A member of an object type; an optional one may be left out. -/
inductive Member where
  | mk (name : String) (optional : Bool) (type : TypeExpr)

end

instance : Inhabited TypeExpr := ⟨.keyword .any⟩

/-- The text of an object type, given the texts of its members. -/
def printObject (members : List String) : String :=
  if members.isEmpty then "\x7b\x7d" else "\x7b " ++ join "; " members ++ " \x7d"

mutual

/-- The text of a type expression. -/
def TypeExpr.print : TypeExpr → String
  | .keyword word => word.print
  | .reference name => name
  | .nullableArray element => "(" ++ element.print ++ "[] | null)"
  | .object members => printObject (Member.printList members)

/-- The texts of the members, in order. -/
def Member.printList : List Member → List String
  | [] => []
  | member :: rest => member.print :: Member.printList rest

/-- The text of a member. -/
def Member.print : Member → String
  | .mk name optional type =>
    propertyName name ++ (if optional then "?" else "") ++ ": " ++ type.print

end

mutual

/-- The defined types that an expression names. -/
def TypeExpr.references : TypeExpr → List String
  | .keyword _ => []
  | .reference name => [name]
  | .nullableArray element => element.references
  | .object members => Member.referencesList members

/-- The defined types that the members name. -/
def Member.referencesList : List Member → List String
  | [] => []
  | member :: rest => member.references ++ Member.referencesList rest

/-- The defined types that a member names. -/
def Member.references : Member → List String
  | .mk _ _ type => type.references

end

/-- An object type with a name. -/
structure Definition where
  /-- The name by which other types refer to it. -/
  name : String
  /-- Its members, in declaration order. -/
  members : List Member

/-- The text of a definition, one member a line. -/
def Definition.print (definition : Definition) : String :=
  if definition.members.isEmpty then "type " ++ definition.name ++ " = \x7b\x7d"
  else
    "type " ++ definition.name ++ " = \x7b\n"
      ++ join "\n" ((Member.printList definition.members).map ("  " ++ ·)) ++ "\n\x7d"

/-- The defined types that a definition names. -/
def Definition.references (definition : Definition) : List String :=
  Member.referencesList definition.members

end TypedRpc.TypeScript
