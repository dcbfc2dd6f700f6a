import TypedRpc.Descriptor.Basic
import TypedRpc.Wire.Value

/-!
Shapes of values that travel as JSON. A shape says how a value is read and how its type is described to
clients. Records are declared by name, so a shape can contain itself; their descriptors defer the field list to
the slot of that name.
-/

namespace TypedRpc.Wire

/-- The shape of a value. -/
inductive Shape where
  /-- Any JSON. -/
  | json
  | unit
  /-- An object of which no field is wanted. -/
  | empty
  | text
  | character
  | boolean
  /-- A natural number of that many bits. -/
  | natural (bits : Nat)
  /-- An integer of that many bits. -/
  | integer (bits : Nat)
  | float
  /-- A point in time, written as text. -/
  | timestamp
  /-- A value that may be missing. -/
  | option (inner : Shape)
  | list (element : Shape)
  /-- A map from texts. -/
  | table (element : Shape)
  /-- One alternative of several, which may be missing. -/
  | choice (inner : Shape)
  /-- A declared record, by its qualified name. -/
  | record (name : String)
  deriving DecidableEq, Repr, Inhabited

/-- A field of a declared record. -/
structure FieldDecl where
  /-- The name on the wire. -/
  name : String
  shape : Shape
  /-- The value of the field when it is missing on the wire. -/
  fallback : Option Value
  /-- The field is not written when its value is missing. -/
  omitsAbsent : Bool

/-- A declared record. -/
structure RecordDecl where
  /-- The qualified name. -/
  qualified : String
  /-- The name in messages. -/
  name : String
  fields : List FieldDecl
  /-- Unknown fields are refused. -/
  closed : Bool
  /-- The record is written out wherever it is used, instead of being defined once. -/
  inline : Bool

/-- The declared records, by qualified name. -/
abbrev Declarations := List (String × RecordDecl)

/-- The declarations of some records. -/
def declarations (records : List RecordDecl) : Declarations :=
  records.map fun record => (record.qualified, record)

/-- A field that is required on the wire, unless its shape may be missing. -/
def FieldDecl.plain (name : String) (shape : Shape) : FieldDecl :=
  ⟨name, shape, none, false⟩

namespace Shape

/-- The descriptor of a shape. A record that is not declared is described as unknown. -/
def describe (declared : Declarations) : Shape → Descriptor
  | .json | .unit | .table _ => .unknown
  | .empty => .inline (.listed [])
  | .text | .character => .string
  | .boolean => .boolean
  | .natural _ | .integer _ | .float => .number
  | .timestamp => .timestamp
  | .option inner => .optional (inner.describe declared)
  | .list element => .sequence (element.describe declared)
  | .choice inner => .wrapper (inner.describe declared)
  | .record name =>
    match declared.lookup name with
    | some decl => if decl.inline then .inline (.deferred name) else .named name (.deferred name)
    | none => .unknown

end Shape

/-- The descriptor of a field. One that may be left out when it is written may be missing for the client. -/
def FieldDecl.describe (declared : Declarations) (field : FieldDecl) : Field :=
  if field.omitsAbsent then .leaveable field.name (field.shape.describe declared)
  else .plain field.name (field.shape.describe declared)

/-- The slots of the declared records. -/
def Declarations.slots (declared : Declarations) : SlotTable :=
  declared.map fun (name, record) => (name, record.fields.map (FieldDecl.describe declared))

end TypedRpc.Wire
