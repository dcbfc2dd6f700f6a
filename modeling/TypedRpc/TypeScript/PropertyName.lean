/-!
Property names. A name that is an identifier stands bare; any other is a single-quoted literal in which the
backslash and the quote are escaped.
-/

namespace TypedRpc.TypeScript

/-- A character that may begin an identifier. -/
def isIdentifierStart (c : Char) : Bool :=
  c.isAlpha || c == '_' || c == '$'

/-- A character that may continue an identifier. -/
def isIdentifierPart (c : Char) : Bool :=
  c.isAlphanum || c == '_' || c == '$'

/-- The text is an identifier of ASCII letters, digits, `_` and `$` that begins with no digit. -/
def isIdentifier : List Char → Bool
  | [] => false
  | first :: rest => isIdentifierStart first && rest.all isIdentifierPart

namespace PropertyName

/-- A character as it stands inside a quoted name. -/
def escapeChar (c : Char) : List Char :=
  if c = '\\' then ['\\', '\\'] else if c = '\'' then ['\\', '\''] else [c]

/-- The spelling of a property name, as characters. -/
def spell (name : List Char) : List Char :=
  if isIdentifier name then name else '\'' :: name.flatMap escapeChar ++ ['\'']

end PropertyName

/-- The spelling of a property name: bare when it is an identifier, quoted otherwise. -/
def propertyName (name : String) : String :=
  String.ofList (PropertyName.spell name.toList)

end TypedRpc.TypeScript
