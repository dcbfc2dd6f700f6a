import TypedRpc.Declaration.Attribute
import TypedRpc.Text.Blank

/-!
Deriving descriptions from declarations. A record is described as a composite of its fields, under their names on
the wire, or as its only field. One description serves both directions, so each field needs the same name in both.
-/

namespace TypedRpc.Declaration

open TypedRpc.Text

/-- A field of a declaration; the fields of a tuple have no name. -/
structure DeclaredField where
  name : Option String
  /-- The type as it is written. -/
  type : String
  attributes : List Attribute

/-- What a declaration consists of. -/
inductive DeclarationBody where
  /-- A record with named fields. -/
  | named (fields : List DeclaredField)
  /-- A record with fields known by their place. -/
  | tuple (fields : List DeclaredField)
  /-- A record without fields, written without braces. -/
  | unit
  /-- A choice between variants. -/
  | enumeration
  /-- Fields that share their place in memory. -/
  | union

/-- A declaration. -/
structure TypeDeclaration where
  name : String
  /-- The list of parameters as it is written, in angle brackets. -/
  parameters : String
  attributes : List Attribute
  body : DeclarationBody

/-- A list of parameters with at least one parameter in it. -/
def hasParameters (parameters : String) : Bool :=
  parameters.toList.any fun c => !(c == '<' || c == '>' || isBlank c)

/-- Why there is no description of a declaration. -/
inductive DerivationError where
  | generic
  | enumeration
  | union
  | unit
  /-- A tuple of several fields or none. -/
  | tuple
  /-- The rules for the names of all fields differ. -/
  | rulesDiffer
  /-- The names of a field differ. -/
  | namesDiffer (serialized deserialized : String)
  /-- A transparent record has not exactly one field. -/
  | notTransparent
  | illFormed (error : AttributeError)
  deriving DecidableEq, Repr

/-- The text of a derivation error. -/
def DerivationError.message : DerivationError → String
  | .generic => "Describe cannot be derived for generic types; describe a concrete type instead"
  | .enumeration =>
    "Describe cannot be derived for enums; model alternatives as a struct of Choice<T> fields"
  | .union => "Describe cannot be derived for unions"
  | .unit => "Describe cannot be derived for unit structs; use \x60struct Name \x7b\x7d\x60"
  | .tuple => "Describe supports tuple structs with exactly one field only"
  | .rulesDiffer =>
    "Describe needs one wire name per field; rename_all must be the same for serialize and deserialize"
  | .namesDiffer serialized deserialized =>
    "Describe needs one wire name per field; serialized as \x60" ++ serialized
      ++ "\x60 but deserialized as \x60" ++ deserialized ++ "\x60"
  | .notTransparent => "#[serde(transparent)] requires exactly one field"
  | .illFormed error => error.message

/-- A field of a description. -/
structure DerivedField where
  /-- The name on the wire. -/
  name : String
  /-- The field may be missing whatever its type says. -/
  leaveable : Bool
  type : String
  deriving DecidableEq, Repr

/-- The description of a declaration. The field list of a composite is deferred, so that it can contain itself. -/
inductive Derivation where
  /-- The description of an inner type. -/
  | transparent (type : String)
  /-- A composite, with a name unless it is written out wherever it is used. -/
  | composite (name : Option String) (fields : List DerivedField)
  deriving DecidableEq, Repr

/-- A computation that may find no description. -/
abbrev Derive := Except DerivationError

/-- Reads attributes. -/
def Derive.attributes {α : Type} (result : Except AttributeError α) : Derive α :=
  result.mapError .illFormed

/-- A name without the mark that lets a reserved word be a name. -/
def plainName (name : String) : String :=
  match name.toList with
  | 'r' :: '#' :: rest => String.ofList rest
  | _ => name

/-- The one rule for the names of all fields. -/
def RecordOptions.rule (options : RecordOptions) : Derive RenameRule :=
  let serialize := options.renameAll.serialize.getD .unchanged
  let deserialize := options.renameAll.deserialize.getD .unchanged
  if serialize = deserialize then .ok serialize else .error .rulesDiffer

/-- The one name of a field, given the name that the rule for all fields makes. -/
def FieldOptions.wireName (options : FieldOptions) (byRule : String) : Derive String :=
  let serialize := options.rename.serialize.getD byRule
  let deserialize := options.rename.deserialize.getD byRule
  if serialize = deserialize then .ok serialize else .error (.namesDiffer serialize deserialize)

/-- The description of a field, if it travels. -/
def DeclaredField.derive (rule : RenameRule) (field : DeclaredField) : Derive (Option DerivedField) := do
  let options ← Derive.attributes (FieldOptions.ofAttributes field.attributes)
  match field.name, options.skipped with
  | some name, false =>
    return some ⟨← options.wireName (rule.apply (plainName name)), options.maybeAbsent, field.type⟩
  | _, _ => return none

/-- The descriptions of the fields that travel, in order. -/
def deriveFields (rule : RenameRule) : List DeclaredField → Derive (List DerivedField)
  | [] => .ok []
  | field :: rest => do
    let first ← field.derive rule
    return first.toList ++ (← deriveFields rule rest)

/-- The field counts as one of a transparent record: it is not known to be skipped. -/
def DeclaredField.isKept (field : DeclaredField) : Bool :=
  match FieldOptions.ofAttributes field.attributes with
  | .ok options => !options.skipped
  | .error _ => true

/-- The description of what a declaration consists of. -/
def DeclarationBody.derive (name : String) (options : RecordOptions) (rule : RenameRule) :
    DeclarationBody → Derive Derivation
  | .named fields =>
    if options.transparent then
      match fields.filter DeclaredField.isKept with
      | [field] => .ok (.transparent field.type)
      | _ => .error .notTransparent
    else do
      let derived ← deriveFields rule fields
      return .composite (if options.inline then none else some name) derived
  | .tuple [field] => .ok (.transparent field.type)
  | .tuple _ => .error .tuple
  | .unit => .error .unit
  | .enumeration => .error .enumeration
  | .union => .error .union

/-- The description of a declaration. What it cannot be is told before its attributes are read. -/
def TypeDeclaration.derive (declaration : TypeDeclaration) : Derive Derivation :=
  if hasParameters declaration.parameters then .error .generic
  else
    match declaration.body with
    | .enumeration => .error .enumeration
    | .union => .error .union
    | body => do
      let options ← Derive.attributes (RecordOptions.ofAttributes declaration.attributes)
      let rule ← options.rule
      body.derive declaration.name options rule

end TypedRpc.Declaration
