import TypedRpc.Json.Skip
import TypedRpc.Wire.Shape

/-!
Reading values from JSON. A record is read from an object, whose members may come in any order, or from a list of
its fields. Missing fields take their fallback, and those whose shape may be missing are absent; unknown fields
are skipped unless the record is closed.

Containers may be open inside each other up to a limit. `decodeWith` is handed the reader for what stands inside
a container, so that the recursion over a shape is structural; `decodeAt` ties the knot.
-/

namespace TypedRpc.Wire

open TypedRpc.Json
open TypedRpc.Json.Reader

/-- How many containers may be open inside each other. -/
def containerLimit : Nat := 127

/-- How a shape is named where a value of it is expected. -/
def Shape.expected (declared : Declarations) : Shape → String
  | .json => "any valid JSON value"
  | .unit => "unit"
  | .empty => "struct Empty"
  | .text | .timestamp => "a string"
  | .character => "a character"
  | .boolean => "a boolean"
  | .natural bits => s!"u{bits}"
  | .integer bits => s!"i{bits}"
  | .float => "f64"
  | .option inner | .choice inner => inner.expected declared
  | .list _ => "a sequence"
  | .table _ => "a map"
  | .record name => "struct " ++ ((declared.lookup name).map (·.name)).getD name

/-! ## Scalars -/

/-- A number as a value of a numeric shape. -/
def numberAs (declared : Declarations) (shape : Shape) (n : Number) : Reader Value :=
  let expected := shape.expected declared
  match shape, n with
  | .natural bits, .integer i =>
    if 0 ≤ i ∧ i < Int.pow 2 bits then pure (.integer i) else failShape (.invalidValue (.integer i) expected)
  | .integer bits, .integer i =>
    if -(Int.pow 2 (bits - 1)) ≤ i ∧ i < Int.pow 2 (bits - 1) then pure (.integer i)
    else failShape (.invalidValue (.integer i) expected)
  | .float, .integer i => pure (.float (Binary64.ofInt i))
  | .float, .float x => pure (.float x)
  | _, .integer i => failShape (.invalidType (.integer i) expected)
  | _, .float x => failShape (.invalidType (.float x) expected)

/-- A value of a numeric shape. -/
def decodeNumber (declared : Declarations) (shape : Shape) : Reader Value := settled do
  match ← peekToken with
  | none => failNext .endInValue
  | some b =>
    if b == code '-' then
      skip
      numberAs declared shape (← number false)
    else if isDigit b then numberAs declared shape (← number true)
    else unexpected (shape.expected declared)

/-- A truth value. -/
def decodeBool (expected : String) : Reader Value := settled do
  match ← peekToken with
  | none => failNext .endInValue
  | some b =>
    if b == code 't' then
      skip; word ['r', 'u', 'e']; return .bool true
    else if b == code 'f' then
      skip; word ['a', 'l', 's', 'e']; return .bool false
    else unexpected expected

/-- The unit, which is null. -/
def decodeUnit (expected : String) : Reader Value := settled do
  match ← peekToken with
  | none => failNext .endInValue
  | some b =>
    if b == code 'n' then
      skip; word ['u', 'l', 'l']; return .unit
    else unexpected expected

/-- A string that is turned into a value. -/
def decodeString (expected : String) (accept : String → Reader Value) : Reader Value := settled do
  match ← peekToken with
  | none => failNext .endInValue
  | some b =>
    if b == code '"' then
      skip
      accept (← string)
    else unexpected expected

/-- A text of exactly one character. -/
def oneCharacter (expected : String) (s : String) : Reader Value :=
  match s.toList with
  | [_] => pure (.text s)
  | _ => failShape (.invalidValue (.string s) expected)

/-! ## Containers -/

/-- The elements of a list, from the given index on. -/
def listItems {α : Type} (item : Reader α) : Nat → Bool → Nat → Reader (List α)
  | 0, _, _ => failNext .endInList
  | steps + 1, first, index => do
    if ← nextElement first then
      let a ← within (.index index) item
      return a :: (← listItems item steps false (index + 1))
    else return []

/-- A key, whose quote comes next. A fault in it belongs to a place without a key. -/
def key : Reader String := within .missingKey do
  skip
  string

/-- The members of an object: for each key a reader for its value. A fault where a key should be belongs to a
place without a key. -/
def objectMembers {α : Type} (member : String → Reader α) : Nat → Bool → Reader (List α)
  | 0, _ => failNext .endInObject
  | steps + 1, first => do
    if ← within .missingKey (nextKey first) then
      let name ← key
      let a ← member name
      return a :: (← objectMembers member steps false)
    else return []

/-- A member of a map: the colon, and the value, which belongs to the key. -/
def mapMember {α : Type} (item : Reader α) (name : String) : Reader (String × α) := do
  colon
  return (name, ← within (.key name) item)

/-- How many steps a loop over the elements of a container may need. -/
def loopBound : Reader Nat := do
  return (← textSize) + 1

/-- Opens a container, unless too many are open. -/
def enter {α : Type} (inside : Option α) : Reader α := do
  match inside with
  | some a =>
    skip
    return a
  | none => failNext .recursionLimit

/-- Sets an entry of a sorted table. -/
def setEntry (name : String) (value : Value) : List (String × Value) → List (String × Value)
  | [] => [(name, value)]
  | (other, old) :: rest =>
    if name = other then (name, value) :: rest
    else if name < other then (name, value) :: (other, old) :: rest
    else (other, old) :: setEntry name value rest

/-- The entries sorted by key; of several with one key the last one counts. -/
def sortEntries (entries : List (String × Value)) : List (String × Value) :=
  entries.foldl (fun sorted (name, value) => setEntry name value sorted) []

/-! ## Any JSON -/

/-- Any JSON, given the reader for what stands inside a container. -/
def decodeAny (inside : Option (Reader Json.Value)) : Reader Json.Value := settled do
  match ← peekToken with
  | none => failNext .endInValue
  | some b =>
    if b == code 'n' then
      skip; word ['u', 'l', 'l']; return .null
    else if b == code 't' then
      skip; word ['r', 'u', 'e']; return .bool true
    else if b == code 'f' then
      skip; word ['a', 'l', 's', 'e']; return .bool false
    else if b == code '-' then
      skip; return jsonNumber (← number false)
    else if isDigit b then return jsonNumber (← number true)
    else if b == code '"' then
      skip; return .string (← string)
    else if b == code '[' then
      let item ← enter inside
      closedBy (do return .array (← listItems item (← loopBound) true 0)) closeList
    else if b == code '\x7b' then
      let item ← enter inside
      closedBy (do return .object (Json.Value.sortMembers (← objectMembers (mapMember item) (← loopBound) true)))
        closeObject
    else failNext .expectedValue
where
  /-- A number as JSON. -/
  jsonNumber : Number → Json.Value
    | .integer i => .integer i
    | .float x => .float x

/-- Any JSON with at most that many containers open inside each other. -/
def decodeJson : Nat → Reader Json.Value
  | 0 => decodeAny none
  | depth + 1 => decodeAny (some (decodeJson depth))

/-! ## Records -/

/-- The message that names how many fields a record has. -/
def RecordDecl.expected (record : RecordDecl) : String :=
  let n := record.fields.length
  s!"struct {record.name} with {n} " ++ (if n = 1 then "element" else "elements")

/-- The member that a field writes for a value. -/
def FieldDecl.written (field : FieldDecl) (value : Value) : List (String × Value) :=
  match value with
  | .absent => if field.omitsAbsent then [] else [(field.name, .absent)]
  | value => [(field.name, value)]

/-- The fields of a record in declaration order, from a list. -/
def recordItems (item : Shape → Reader Value) (expected : String) :
    List FieldDecl → Nat → Reader (List (String × Value))
  | [], _ => return []
  | field :: rest, index => do
    if ← nextElement (index == 0) then
      let value ← within (.index index) (item field.shape)
      return field.written value ++ (← recordItems item expected rest (index + 1))
    else
      match field.fallback with
      | some value => return field.written value ++ (← recordItems item expected rest (index + 1))
      | none => failShape (.invalidLength index expected)

/-- The fields of a record as they come in an object, with the values read so far in front. -/
def recordMembers (item : Shape → Reader Value) (record : RecordDecl) :
    Nat → Bool → List (String × Value) → Reader (List (String × Value))
  | 0, _, _ => failNext .endInObject
  | steps + 1, first, read => do
    if ← within .missingKey (nextKey first) then
      let name ← key
      match record.fields.find? (·.name == name) with
      | some field =>
        if (read.lookup name).isSome then failShape (.duplicateField name)
        else
          colon
          let value ← within (.key name) (item field.shape)
          recordMembers item record steps false ((name, value) :: read)
      | none =>
        if record.closed then
          within (.key name) (failShape (.unknownField name (record.fields.map (·.name))))
        else
          colon
          within (.key name) skipOne
          recordMembers item record steps false read
    else return read

/-- The value of a field that an object does not have. -/
def FieldDecl.missing (field : FieldDecl) : Reader Value :=
  match field.fallback, field.shape with
  | some value, _ => pure value
  | none, .option _ => pure .absent
  | none, .choice _ => pure .absent
  | none, _ => failShape (.missingField field.name)

/-- The members that a record writes, from the values that were read. -/
def completeFields (read : List (String × Value)) : List FieldDecl → Reader (List (String × Value))
  | [] => return []
  | field :: rest => do
    let value ← match read.lookup field.name with
      | some value => pure value
      | none => field.missing
    return field.written value ++ (← completeFields read rest)

/-- A record, given the reader for what stands inside a container. -/
def decodeRecord (inside : Option (Shape → Reader Value)) (record : RecordDecl) : Reader Value := settled do
  match ← peekToken with
  | none => failNext .endInValue
  | some b =>
    if b == code '[' then
      let item ← enter inside
      closedBy (do return .record (← recordItems item record.expected record.fields 0)) closeList
    else if b == code '\x7b' then
      let item ← enter inside
      closedBy
        (do
          let read ← recordMembers item record (← loopBound) true []
          return .record (← completeFields read record.fields))
        closeObject
    else unexpected ("struct " ++ record.name)

/-! ## Values of a shape -/

/-- A value that may be missing: null, or a value. -/
def decodeOption (inner : Reader Value) : Reader Value := do
  match ← peekToken with
  | some b =>
    if b == code 'n' then
      skip; word ['u', 'l', 'l']; return .absent
    else return .present (← inner)
  | none => return .present (← inner)

/-- A value of a shape, given the reader for what stands inside a container; `depth` more containers may be
open. -/
def decodeWith (declared : Declarations) (depth : Nat) (inside : Option (Shape → Reader Value)) :
    Shape → Reader Value
  | .json => do return .json (← decodeJson depth)
  | .unit => decodeUnit "unit"
  | .empty => decodeRecord inside ⟨"Empty", "Empty", [], false, true⟩
  | .text => decodeString "a string" fun s => return .text s
  | .timestamp => decodeString "a string" fun s => return .text s
  | .character => decodeString "a character" (oneCharacter "a character")
  | .boolean => decodeBool "a boolean"
  | .natural bits => decodeNumber declared (.natural bits)
  | .integer bits => decodeNumber declared (.integer bits)
  | .float => decodeNumber declared .float
  | .option inner => decodeOption (decodeWith declared depth inside inner)
  | .choice inner => decodeOption (decodeWith declared depth inside inner)
  | .list element => settled do
    match ← peekToken with
    | none => failNext .endInValue
    | some b =>
      if b == code '[' then
        let item ← enter inside
        closedBy (do return .list (← listItems (item element) (← loopBound) true 0)) closeList
      else unexpected "a sequence"
  | .table element => settled do
    match ← peekToken with
    | none => failNext .endInValue
    | some b =>
      if b == code '\x7b' then
        let item ← enter inside
        closedBy
          (do return .table (sortEntries (← objectMembers (mapMember (item element)) (← loopBound) true)))
          closeObject
      else unexpected "a map"
  | .record name =>
    match declared.lookup name with
    | some record => decodeRecord inside record
    | none => do return .json (← decodeJson depth)

/-- A value of a shape with at most that many containers open inside each other. -/
def decodeAt (declared : Declarations) : Nat → Shape → Reader Value
  | 0 => decodeWith declared 0 none
  | depth + 1 => decodeWith declared (depth + 1) (some (decodeAt declared depth))

/-- The value of a shape that a text holds, with nothing but blanks around it. -/
def decode (declared : Declarations) (shape : Shape) (text : List UInt8) : Except DecodeError Value :=
  match (do
      let value ← decodeAt declared containerLimit shape
      endOfText
      return value : Reader Value) (.start text) with
  | (.ok value, _) => .ok value
  | (.error fault, _) => .error (.ofFault text fault)

/-- The byte is a blank of ASCII. -/
def isAsciiBlank (b : UInt8) : Bool :=
  b == 0x20 || b == 0x09 || b == 0x0A || b == 0x0C || b == 0x0D

/-- The text that a request body stands for: an object without members if the body is blank. -/
def bodyText (body : List UInt8) : List UInt8 :=
  if body.all isAsciiBlank then [code '\x7b', code '\x7d'] else body

/-- The value of a shape that a request body holds. -/
def decodeBody (declared : Declarations) (shape : Shape) (body : List UInt8) : Except DecodeError Value :=
  decode declared shape (bodyText body)

end TypedRpc.Wire
