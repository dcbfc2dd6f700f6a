import TypedRpc.Compiler.State
import TypedRpc.Descriptor.Basic

/-!
Compiling descriptors to type expressions. A named composite becomes a reference, and its definition is
completed on the way unless it exists or is under construction; a composite without a name is written out.
Errors keep what was learned so far.

Deferred field lists are opened by a function that is handed in, so that the recursion over a descriptor is
structural; `openSlot` ties the knot with a bound on how many lists are open inside each other. A list is
opened only inside a named composite not yet under construction or inside one of at most `inlineLimit`
composites without a name, so the bound that `compile` computes is never used up.
-/

namespace TypedRpc

open TypedRpc.TypeScript

/-- Why a type cannot be compiled or defined. -/
inductive GenerationError where
  /-- Composites without a name contain each other deeper than the limit. -/
  | nestedTooDeep
  /-- A definition was asked of a type that has no name. -/
  | unnamed (type : TypeExpr)
  /-- Deferred field lists are nested deeper than any table allows. -/
  | unbounded

namespace Compiler

/-- Composites without a name that are nested deeper than this are taken to contain themselves. -/
def inlineLimit : Nat := 32

/-- A compilation: a result or an error, and the state afterwards in both cases. -/
abbrev Step (α : Type) := Compiler → Except GenerationError α × Compiler

/-- Compiles a composite without a name, given how to compile its fields. -/
def expandInline (body : Step (List Member)) : Step TypeExpr := fun c =>
  if inlineLimit ≤ c.inlineDepth then (.error .nestedTooDeep, c)
  else
    let (result, c) := body { c with inlineDepth := c.inlineDepth + 1 }
    (result.map .object, { c with inlineDepth := c.inlineDepth - 1 })

/-- Compiles a composite with a name, given how to compile its fields: the name alone when the definition
exists or is under construction, and the definition too when it is met for the first time. -/
def expandNamed (segments : List String) (body : Step (List Member)) : Step TypeExpr := fun c =>
  let key := keyOf segments
  let (name, c) := c.assignName segments
  if c.processing.contains key || (c.definition? name).isSome then (.ok (.reference name), c)
  else
    match body (c.enter key) with
    | (.error e, c) => (.error e, c.leave key)
    | (.ok members, c) => (.ok (.reference name), (c.leave key).define ⟨name, members⟩)

/-- The keyword for a scalar. -/
def scalarKeyword : Scalar → Keyword
  | .string => .string
  | .number => .number
  | .boolean => .boolean

mutual

/-- Compiles a descriptor, given how to compile the fields in a slot. -/
def compileWith (slot : String → Step (List Member)) : Descriptor → Step TypeExpr
  | .scalar kind, c => (.ok (.keyword (scalarKeyword kind)), c)
  | .timestamp, c => (.ok (.keyword .string), c)
  | .unknown, c => (.ok (.keyword .any), c)
  | .sequence element, c =>
    let (result, c) := compileWith slot element c
    (result.map .nullableArray, c)
  | .optional inner, c => compileWith slot inner c
  | .wrapper inner, c => compileWith slot inner c
  | .named name fields, c =>
    match segments name with
    | [] => expandInline (compileFields slot fields) c
    | first :: rest => expandNamed (first :: rest) (compileFields slot fields) c
  | .inline fields, c => expandInline (compileFields slot fields) c

/-- Compiles the fields of a list. -/
def compileFields (slot : String → Step (List Member)) : FieldList → Step (List Member)
  | .listed fields, c => compileMembers slot fields c
  | .deferred name, c => slot name c

/-- Compiles fields one after the other, up to the first that fails. -/
def compileMembers (slot : String → Step (List Member)) : List Field → Step (List Member)
  | [], c => (.ok [], c)
  | field :: rest, c =>
    match compileField slot field c with
    | (.error e, c) => (.error e, c)
    | (.ok member, c) =>
      let (result, c) := compileMembers slot rest c
      (result.map (member :: ·), c)

/-- Compiles a field to a member of the same name. -/
def compileField (slot : String → Step (List Member)) : Field → Step Member
  | .mk wireName type required, c =>
    let (result, c) := compileWith slot type c
    (result.map (.mk wireName (!required || type.isOptional)), c)

end

/-- Compiles the fields in a slot, with at most `depth` slots open inside each other. -/
def openSlot (table : SlotTable) : Nat → String → Step (List Member)
  | 0, _, c => (.error .unbounded, c)
  | depth + 1, slot, c => compileMembers (openSlot table depth) (table.fields slot) c

end Compiler

/-! ## The bound on open slots -/

mutual

/-- The named composites in a descriptor. -/
def Descriptor.namedCount : Descriptor → Nat
  | .scalar _ | .timestamp | .unknown => 0
  | .sequence element => element.namedCount
  | .optional inner => inner.namedCount
  | .wrapper inner => inner.namedCount
  | .named _ fields => fields.namedCount + 1
  | .inline fields => fields.namedCount

/-- The named composites in a field list; those behind a slot do not count here. -/
def FieldList.namedCount : FieldList → Nat
  | .listed fields => Field.namedCountList fields
  | .deferred _ => 0

/-- The named composites in a list of fields. -/
def Field.namedCountList : List Field → Nat
  | [] => 0
  | field :: rest => field.namedCount + Field.namedCountList rest

/-- The named composites in the type of a field. -/
def Field.namedCount : Field → Nat
  | .mk _ type _ => type.namedCount

end

/-- The named composites in all slots. -/
def SlotTable.namedCount (table : SlotTable) : Nat :=
  table.foldr (fun entry count => Field.namedCountList entry.2 + count) 0

namespace Compiler

/-- How many slots can be open inside each other: one for each named composite, and one for each level of
composites without a name. -/
def slotBound (table : SlotTable) (descriptor : Descriptor) : Nat :=
  descriptor.namedCount + table.namedCount + inlineLimit

/-- Compiles a descriptor to a type expression. -/
def compile (table : SlotTable) (descriptor : Descriptor) : Step TypeExpr :=
  compileWith (openSlot table (slotBound table descriptor)) descriptor

/-- The definition of a named composite, looked for through layers that may be missing. -/
def defineType (table : SlotTable) : Descriptor → Step Definition
  | .optional inner, c => defineType table inner c
  | .wrapper inner, c => defineType table inner c
  | descriptor, c =>
    match c.compile table descriptor with
    | (.error e, c) => (.error e, c)
    | (.ok (.reference name), c) =>
      match c.definition? name with
      | some definition => (.ok definition, c)
      | none => (.error (.unnamed (.reference name)), c)
    | (.ok type, c) => (.error (.unnamed type), c)

end Compiler

/-- The text of a generation error. -/
def GenerationError.message : GenerationError → String
  | .nestedTooDeep =>
    s!"anonymous type has no name to define: \x7b ... \x7d nested {Compiler.inlineLimit} levels deep"
  | .unnamed type => "anonymous type has no name to define: " ++ type.print
  | .unbounded => "deferred fields are nested without end"

end TypedRpc
