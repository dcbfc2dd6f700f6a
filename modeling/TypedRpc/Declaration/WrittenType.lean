import TypedRpc.Descriptor.Basic
import TypedRpc.Text.Blank
import TypedRpc.Text.Split

/-!
Types as they are written in declarations, and what they look like on the wire. A written type is a name with
arguments, an array of elements, or a reference. The built-in names have fixed descriptors; pointers and
references are transparent, all collections of elements are alike, and maps have no descriptor of their own.
-/

namespace TypedRpc.Declaration

open TypedRpc.Text

/-- A type as it is written. -/
inductive WrittenType where
  /-- A name, the last part of its path, with its type arguments. -/
  | applied (name : String) (arguments : List WrittenType)
  /-- A slice or an array. -/
  | array (element : WrittenType)
  /-- A reference. -/
  | reference (target : WrittenType)
  /-- The empty tuple. -/
  | unit

/-! ## Reading -/

namespace WrittenType

/-- A character of a path. -/
def isPathChar (c : Char) : Bool :=
  c.isAlphanum || c == '_' || c == ':'

/-- The text without the blanks in front of it. -/
def dropBlanks (cs : List Char) : List Char :=
  cs.dropWhile isBlank

/-- The text after a lifetime, which begins with a quote, if it begins with one. -/
def dropLifetime (cs : List Char) : List Char :=
  match cs with
  | '\'' :: rest => dropBlanks (rest.dropWhile isPathChar)
  | _ => cs

/-- The last part of a path. -/
def lastPart (path : List Char) : String :=
  String.ofList ((splitPairs ':' path).getLastD [])

mutual

/-- Reads a type from the front of a text; nested `fuel` deep at most. -/
def read : Nat → List Char → Option (WrittenType × List Char)
  | 0, _ => none
  | fuel + 1, cs =>
    match dropBlanks cs with
    | '&' :: rest => (read fuel (dropLifetime (dropBlanks rest))).map fun (t, rest) => (.reference t, rest)
    | '(' :: rest =>
      match dropBlanks rest with
      | ')' :: rest => some (.unit, rest)
      | _ => none
    | '[' :: rest =>
      match read fuel rest with
      | some (element, rest) =>
        match (dropBlanks rest).dropWhile (· != ']') with
        | ']' :: rest => some (.array element, rest)
        | _ => none
      | none => none
    | cs =>
      let path := cs.takeWhile isPathChar
      if path.isEmpty then none
      else
        match dropBlanks (cs.drop path.length) with
        | '<' :: rest => (readArguments fuel rest).map fun (args, rest) => (.applied (lastPart path) args, rest)
        | rest => some (.applied (lastPart path) [], rest)

/-- Reads the arguments of a type up to the closing bracket; lifetimes do not count. -/
def readArguments : Nat → List Char → Option (List WrittenType × List Char)
  | 0, _ => none
  | fuel + 1, cs =>
    match dropBlanks (dropLifetime (dropBlanks cs)) with
    | '>' :: rest => some ([], rest)
    | ',' :: rest => readArguments fuel rest
    | cs =>
      match read fuel cs with
      | some (argument, rest) =>
        (readArguments fuel rest).map fun (arguments, rest) => (argument :: arguments, rest)
      | none => none

end

/-- The type that a text writes. -/
def ofText? (text : String) : Option WrittenType :=
  match read (text.length + 1) text.toList with
  | some (t, rest) => if (dropBlanks rest).isEmpty then some t else none
  | none => none

/-! ## Describing -/

/-- The names of texts. -/
def textNames : List String := ["String", "str", "char", "Cow"]

/-- The names of numbers. -/
def numberNames : List String :=
  ["i8", "i16", "i32", "i64", "i128", "isize", "u8", "u16", "u32", "u64", "u128", "usize", "f32", "f64",
    "NonZeroU8", "NonZeroU16", "NonZeroU32", "NonZeroU64", "NonZeroUsize", "NonZeroI32", "NonZeroI64"]

/-- The names of points in time. -/
def timestampNames : List String := ["NaiveDateTime", "NaiveDate", "DateTime"]

/-- The names of what can be any JSON. -/
def unknownNames : List String := ["Value", "HashMap", "BTreeMap", "IndexMap"]

/-- The names of pointers. -/
def pointerNames : List String := ["Box", "Arc", "Rc"]

/-- The names of collections. -/
def collectionNames : List String := ["Vec", "VecDeque", "BTreeSet", "HashSet"]

/-- The descriptor of a written type; `declared` knows the names that are not built in. -/
def describe? (declared : String → Option Descriptor) : WrittenType → Option Descriptor
  | .unit => some .unknown
  | .array element => (element.describe? declared).map .sequence
  | .reference target => target.describe? declared
  | .applied name arguments =>
    if textNames.contains name then some .string
    else if name == "bool" then some .boolean
    else if numberNames.contains name then some .number
    else if timestampNames.contains name then some .timestamp
    else if unknownNames.contains name then some .unknown
    else if name == "Empty" then some (.inline (.listed []))
    else
      match arguments with
      | [] => declared name
      | argument :: _ =>
        let inner := argument.describe? declared
        if name == "Option" then inner.map .optional
        else if name == "Choice" then inner.map .wrapper
        else if pointerNames.contains name then inner
        else if collectionNames.contains name then inner.map .sequence
        else none

end WrittenType

end TypedRpc.Declaration
