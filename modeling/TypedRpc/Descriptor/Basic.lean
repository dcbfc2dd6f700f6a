/-!
Type descriptors. A descriptor says what the JSON form of a type looks like: a scalar, a collection, something
that may be missing, or a composite with fields. A composite may leave its field list to a slot of a table, so
that a type can contain itself while every descriptor stays a finite tree.
-/

namespace TypedRpc

/-- The scalars that a client tells apart. All numeric types are one. -/
inductive Scalar where
  | string
  | number
  | boolean
  deriving DecidableEq, Repr

mutual

/-- What the JSON form of a type looks like. -/
inductive Descriptor where
  | scalar (kind : Scalar)
  /-- A point in time, which travels as a string. -/
  | timestamp
  /-- A type of which nothing is known. -/
  | unknown
  /-- A collection, which may arrive as null. -/
  | sequence (element : Descriptor)
  /-- A value that may be missing. -/
  | optional (inner : Descriptor)
  /-- One alternative of several; transparent, and possibly missing. -/
  | wrapper (inner : Descriptor)
  /-- A composite with a qualified name, defined once. -/
  | named (name : String) (fields : FieldList)
  /-- A composite written out wherever it is used. -/
  | inline (fields : FieldList)

/-- The fields of a composite: listed on the spot, or left to a slot of the table. -/
inductive FieldList where
  | listed (fields : List Field)
  | deferred (slot : String)

/-- A member of a composite: its name on the wire, its type, and whether it has to be present. -/
inductive Field where
  | mk (wireName : String) (type : Descriptor) (required : Bool)

end

/-- The field lists that deferred lists stand for, by slot. A slot without an entry holds no fields. -/
abbrev SlotTable := List (String × List Field)

/-- The fields in a slot. -/
def SlotTable.fields (table : SlotTable) (slot : String) : List Field :=
  (table.lookup slot).getD []

instance : Inhabited Descriptor := ⟨.unknown⟩
instance : Inhabited FieldList := ⟨.listed []⟩
instance : Inhabited Field := ⟨.mk "" .unknown true⟩

namespace Descriptor

/-- A string. -/
abbrev string : Descriptor := .scalar .string

/-- A number. -/
abbrev number : Descriptor := .scalar .number

/-- A truth value. -/
abbrev boolean : Descriptor := .scalar .boolean

/-- A field of this type may be missing whatever the field itself says. -/
def isOptional : Descriptor → Bool
  | .optional _ | .wrapper _ => true
  | _ => false

end Descriptor

namespace Field

/-- The name under which the field travels. -/
def wireName : Field → String
  | .mk name _ _ => name

/-- The type of the field. -/
def type : Field → Descriptor
  | .mk _ type _ => type

/-- Whether the field itself asks to be present. -/
def required : Field → Bool
  | .mk _ _ required => required

/-- A field that is required unless its type may be missing. -/
def plain (wireName : String) (type : Descriptor) : Field :=
  .mk wireName type (!type.isOptional)

/-- A field that may be missing. -/
def leaveable (wireName : String) (type : Descriptor) : Field :=
  .mk wireName type false

/-- The field may be missing, by itself or by its type. -/
def isOptional (field : Field) : Bool :=
  !field.required || field.type.isOptional

end Field

/-- The fields of a list, read from the table if they are deferred. -/
def FieldList.resolve (table : SlotTable) : FieldList → List Field
  | .listed fields => fields
  | .deferred slot => table.fields slot

/-- A composite without any field. -/
def Descriptor.isEmptyComposite (table : SlotTable) : Descriptor → Bool
  | .named _ fields | .inline fields => (fields.resolve table).isEmpty
  | _ => false

/-! ## Equality

Deferred lists are equal when they stand for the same slot; what the slot holds is not looked at, since it may
contain the very list that is compared. -/

mutual

/-- The two descriptors are the same tree. -/
def Descriptor.beq : Descriptor → Descriptor → Bool
  | .scalar a, .scalar b => a == b
  | .timestamp, .timestamp => true
  | .unknown, .unknown => true
  | .sequence a, .sequence b => a.beq b
  | .optional a, .optional b => a.beq b
  | .wrapper a, .wrapper b => a.beq b
  | .named m a, .named n b => m == n && a.beq b
  | .inline a, .inline b => a.beq b
  | _, _ => false

/-- The two field lists are the same, slot by slot and field by field. -/
def FieldList.beq : FieldList → FieldList → Bool
  | .listed as, .listed bs => Field.beqList as bs
  | .deferred a, .deferred b => a == b
  | _, _ => false

/-- The two lists hold the same fields in the same order. -/
def Field.beqList : List Field → List Field → Bool
  | [], [] => true
  | a :: as, b :: bs => a.beq b && Field.beqList as bs
  | _, _ => false

/-- The two fields have the same name, type and flag. -/
def Field.beq : Field → Field → Bool
  | .mk m a r, .mk n b s => m == n && a.beq b && r == s

end

instance : BEq Descriptor := ⟨Descriptor.beq⟩
instance : BEq FieldList := ⟨FieldList.beq⟩
instance : BEq Field := ⟨Field.beq⟩

end TypedRpc
