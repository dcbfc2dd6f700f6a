import TypedRpc.Json.Literal
import TypedRpc.Text.Quoted
import TypedRpc.Text.Split

/-!
What can be wrong with a JSON text that is read as a value of some shape: the text is no JSON, or the value is
not of the shape. A fault has a place in the text and a trail, the way from the root of the document to the
value that was being read.
-/

namespace TypedRpc.Json

open TypedRpc.Text

/-- Why a text is not JSON. -/
inductive SyntaxProblem where
  | endInValue
  | endInList
  | endInObject
  | endInString
  | expectedColon
  | expectedListEnd
  | expectedObjectEnd
  | expectedIdent
  | expectedValue
  | invalidEscape
  | invalidNumber
  | numberOutOfRange
  | invalidCodePoint
  | controlCharacter
  | keyNotString
  | loneSurrogate
  | trailingComma
  | trailingCharacters
  | endOfHexEscape
  | recursionLimit
  deriving DecidableEq, Repr

/-- The text of a syntax problem. -/
def SyntaxProblem.message : SyntaxProblem → String
  | .endInValue => "EOF while parsing a value"
  | .endInList => "EOF while parsing a list"
  | .endInObject => "EOF while parsing an object"
  | .endInString => "EOF while parsing a string"
  | .expectedColon => "expected `:`"
  | .expectedListEnd => "expected `,` or `]`"
  | .expectedObjectEnd => "expected `,` or `\x7d`"
  | .expectedIdent => "expected ident"
  | .expectedValue => "expected value"
  | .invalidEscape => "invalid escape"
  | .invalidNumber => "invalid number"
  | .numberOutOfRange => "number out of range"
  | .invalidCodePoint => "invalid unicode code point"
  | .controlCharacter => "control character (\\u0000-\\u001F) found while parsing a string"
  | .keyNotString => "key must be a string"
  | .loneSurrogate => "lone leading surrogate in hex escape"
  | .trailingComma => "trailing comma"
  | .trailingCharacters => "trailing characters"
  | .endOfHexEscape => "unexpected end of hex escape"
  | .recursionLimit => "recursion limit exceeded"

/-- What stands in the text where something else is wanted. -/
inductive Found where
  | null
  | bool (b : Bool)
  | integer (i : Int)
  | float (x : Binary64)
  | string (s : String)
  | sequence
  | map

/-- How what was found is named. -/
def Found.describe : Found → String
  | .null => "null"
  | .bool b => s!"boolean `{b}`"
  | .integer i => s!"integer `{i}`"
  | .float x => "floating point `" ++ floatLiteral x ++ "`"
  | .string s => "string " ++ quote s
  | .sequence => "sequence"
  | .map => "map"

/-- Why a value is not of the wanted shape. -/
inductive ShapeProblem where
  /-- A value of another kind. -/
  | invalidType (found : Found) (expected : String)
  /-- A value of the right kind out of range. -/
  | invalidValue (found : Found) (expected : String)
  /-- Too few elements: the first missing one has this index. -/
  | invalidLength (length : Nat) (expected : String)
  | missingField (name : String)
  | duplicateField (name : String)
  | unknownField (name : String) (known : List String)

/-- The alternatives among which a field name was expected. -/
def oneOf : List String → String
  | [] => "there are no fields"
  | [a] => s!"expected `{a}`"
  | [a, b] => s!"expected `{a}` or `{b}`"
  | names => "expected one of " ++ join ", " (names.map fun name => s!"`{name}`")

/-- The text of a shape problem. -/
def ShapeProblem.message : ShapeProblem → String
  | .invalidType found expected => "invalid type: " ++ found.describe ++ ", expected " ++ expected
  | .invalidValue found expected => "invalid value: " ++ found.describe ++ ", expected " ++ expected
  | .invalidLength length expected => s!"invalid length {length}, expected {expected}"
  | .missingField name => s!"missing field `{name}`"
  | .duplicateField name => s!"duplicate field `{name}`"
  | .unknownField name known => s!"unknown field `{name}`, " ++ oneOf known

/-- What is wrong. -/
inductive Problem where
  | notJson (problem : SyntaxProblem)
  | notOfShape (problem : ShapeProblem)

/-- The text of a problem. -/
def Problem.message : Problem → String
  | .notJson problem => problem.message
  | .notOfShape problem => problem.message

/-- A step from a container to a value in it. -/
inductive Segment where
  | index (i : Nat)
  | key (name : String)
  /-- A place where a key should be. -/
  | missingKey
  deriving DecidableEq, Repr

/-- The text of a segment. -/
def Segment.print : Segment → String
  | .index i => s!"[{i}]"
  | .key name => name
  | .missingKey => "?"

/-- The segments after the first one: a dot stands before each that is no index. -/
def printTrailRest : List Segment → String
  | [] => ""
  | .index i :: rest => (Segment.index i).print ++ printTrailRest rest
  | segment :: rest => "." ++ segment.print ++ printTrailRest rest

/-- The text of a trail; the root is a dot. -/
def printTrail : List Segment → String
  | [] => "."
  | first :: rest => first.print ++ printTrailRest rest

/-- A problem, where it is in the text, and the trail to the value that was being read. The place of a shape
problem is known only when the value that it is about has been left. -/
structure Fault where
  problem : Problem
  place : Option Nat
  trail : List Segment

/-- Gives the fault a place if it has none. -/
def Fault.settle (fault : Fault) (place : Nat) : Fault :=
  { fault with place := some (fault.place.getD place) }

/-- The fault as seen from one container further out. -/
def Fault.within (fault : Fault) (segment : Segment) : Fault :=
  { fault with trail := segment :: fault.trail }

/-- The line of a place, counted from one, and the column, which is the number of bytes between the start of
that line and the place. -/
def lineAndColumn (text : List UInt8) (place : Nat) : Nat × Nat :=
  (text.take place).foldl
    (fun (here : Nat × Nat) b => if b = 10 then (here.1 + 1, 0) else (here.1, here.2 + 1)) (1, 0)

/-- A fault with its place counted in lines. -/
structure DecodeError where
  problem : Problem
  line : Nat
  column : Nat
  trail : List Segment

namespace DecodeError

/-- The fault in a given text. -/
def ofFault (text : List UInt8) (fault : Fault) : DecodeError :=
  let (line, column) := lineAndColumn text (fault.place.getD 0)
  ⟨fault.problem, line, column, fault.trail⟩

/-- The text of the trail. -/
def path (error : DecodeError) : String :=
  printTrail error.trail

/-- The problem and its place. -/
def detail (error : DecodeError) : String :=
  s!"{error.problem.message} at line {error.line} column {error.column}"

/-- The problem and its place, after the trail unless that reads as the root. -/
def message (error : DecodeError) : String :=
  if error.path = "." then error.detail else error.path ++ ": " ++ error.detail

end DecodeError

end TypedRpc.Json
