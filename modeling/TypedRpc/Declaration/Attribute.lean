import TypedRpc.Declaration.RenameRule

/-!
Attributes of declarations: named lists of options. An option is a word, a word with a text, or a word with options
of its own. Reading a list stops at the first option that is not written as it should be.
-/

namespace TypedRpc.Declaration

/-- An option of an attribute. -/
inductive AttributeOption where
  /-- A word alone. -/
  | word (name : String)
  /-- A word with a text. -/
  | assigned (name value : String)
  /-- A word with options in parentheses. -/
  | applied (name : String) (options : List AttributeOption)

/-- The word of an option. -/
def AttributeOption.name : AttributeOption → String
  | .word name => name
  | .assigned name _ => name
  | .applied name _ => name

/-- An attribute. -/
structure Attribute where
  name : String
  options : List AttributeOption

/-- Why an attribute cannot be read. -/
inductive AttributeError where
  /-- A text or parentheses follow a word that stands alone. -/
  | expectedComma
  /-- A text should follow a word. -/
  | expectedText
  /-- Parentheses should follow a word, which may be the last of its list. -/
  | expectedParentheses (last : Bool)
  /-- Parentheses hold no option. -/
  | missingOption
  | unknownRule (name : String)
  /-- The attribute of descriptions has only one option. -/
  | unknownDescribeOption
  /-- The fields of a field cannot be described as its record's. -/
  | flattened
  deriving DecidableEq, Repr

/-- The text of an attribute error. -/
def AttributeError.message : AttributeError → String
  | .expectedComma => "expected \x60,\x60"
  | .expectedText => "expected \x60=\x60"
  | .expectedParentheses true => "unexpected end of input, expected parentheses"
  | .expectedParentheses false => "expected parentheses"
  | .missingOption => "unexpected end of input, expected nested attribute"
  | .unknownRule name => "unknown rename_all rule \x60" ++ name ++ "\x60"
  | .unknownDescribeOption => "unknown describe attribute, expected \x60inline\x60"
  | .flattened => "#[serde(flatten)] is not supported by Describe"

/-! ## Reading options -/

namespace AttributeOption

/-- A word that stands alone. -/
def bare : AttributeOption → Except AttributeError Unit
  | .word _ => .ok ()
  | _ => .error .expectedComma

mutual

/-- An option that is of no interest: any text or list may follow the word, but no empty list. -/
def ignore : AttributeOption → Except AttributeError Unit
  | .word _ => .ok ()
  | .assigned _ _ => .ok ()
  | .applied _ [] => .error .missingOption
  | .applied _ (first :: rest) => do
    ignore first
    ignoreAll rest

/-- Options that are of no interest. -/
def ignoreAll : List AttributeOption → Except AttributeError Unit
  | [] => .ok ()
  | option :: rest => do
    ignore option
    ignoreAll rest

end

end AttributeOption

/-- Something that is said of each direction on its own. -/
structure PerDirection (α : Type) where
  serialize : Option α
  deserialize : Option α

namespace PerDirection

variable {α : Type}

/-- Nothing is said. -/
def nothing : PerDirection α :=
  ⟨none, none⟩

/-- Says something of the direction of a name; other names are of no interest. -/
def say (sides : PerDirection α) (name : String) (value : α) : PerDirection α :=
  if name = "serialize" then { sides with serialize := some value }
  else if name = "deserialize" then { sides with deserialize := some value }
  else sides

/-- Reads options that each give a text, mostly for a direction. -/
def readSides (read : String → Except AttributeError α) :
    PerDirection α → List AttributeOption → Except AttributeError (PerDirection α)
  | sides, [] => .ok sides
  | sides, .assigned name text :: rest => do readSides read (sides.say name (← read text)) rest
  | _, _ :: _ => .error .expectedText

/-- Reads an option that gives one text for both directions, or a list with a text for each; `last` says whether
it is the last of its list. -/
def read (read : String → Except AttributeError α) (sides : PerDirection α) (last : Bool) :
    AttributeOption → Except AttributeError (PerDirection α)
  | .assigned _ text => do
    let value ← read text
    return ⟨some value, some value⟩
  | .word _ => .error (.expectedParentheses last)
  | .applied _ [] => .error .missingOption
  | .applied _ (first :: rest) => readSides read sides (first :: rest)

end PerDirection

/-- Reads the options of a list one after the other; `step` is told whether an option is the last one. -/
def readOptions {σ : Type} (step : σ → Bool → AttributeOption → Except AttributeError σ) :
    σ → List AttributeOption → Except AttributeError σ
  | state, [] => .ok state
  | state, option :: rest => do readOptions step (← step state rest.isEmpty option) rest

/-! ## Options of records -/

/-- What the attributes of a record say. -/
structure RecordOptions where
  renameAll : PerDirection RenameRule
  /-- The record travels as its only field. -/
  transparent : Bool
  /-- The record is described without a name. -/
  inline : Bool

/-- Without attributes. -/
def RecordOptions.default : RecordOptions :=
  ⟨.nothing, false, false⟩

/-- Reads the name of a rule. -/
def readRule (name : String) : Except AttributeError RenameRule :=
  match RenameRule.ofName? name with
  | some rule => .ok rule
  | none => .error (.unknownRule name)

/-- Reads an option about how a record travels. -/
def RecordOptions.readWire (options : RecordOptions) (last : Bool) (option : AttributeOption) :
    Except AttributeError RecordOptions :=
  match option.name with
  | "rename_all" => do
    return { options with renameAll := ← options.renameAll.read readRule last option }
  | "transparent" => do
    option.bare
    return { options with transparent := true }
  | _ => do
    option.ignore
    return options

/-- Reads an option about how a record is described. -/
def RecordOptions.readDescribe (options : RecordOptions) (_ : Bool) (option : AttributeOption) :
    Except AttributeError RecordOptions :=
  match option.name with
  | "inline" => do
    option.bare
    return { options with inline := true }
  | _ => .error .unknownDescribeOption

/-- Reads an attribute of a record; those of other names are of no interest. -/
def RecordOptions.readAttribute (options : RecordOptions) (entry : Attribute) :
    Except AttributeError RecordOptions :=
  match entry.name with
  | "serde" => readOptions readWire options entry.options
  | "describe" => readOptions readDescribe options entry.options
  | _ => .ok options

/-- Reads the attributes of a record. -/
def RecordOptions.ofAttributes (attributes : List Attribute) : Except AttributeError RecordOptions :=
  attributes.foldlM readAttribute .default

/-! ## Options of fields -/

/-- What the attributes of a field say. -/
structure FieldOptions where
  rename : PerDirection String
  /-- The field does not travel. -/
  skipped : Bool
  /-- The field does not always travel, or in one direction only. -/
  maybeAbsent : Bool

/-- Without attributes. -/
def FieldOptions.default : FieldOptions :=
  ⟨.nothing, false, false⟩

/-- Reads an option of a field. -/
def FieldOptions.readOption (options : FieldOptions) (last : Bool) (option : AttributeOption) :
    Except AttributeError FieldOptions :=
  match option.name with
  | "rename" => do return { options with rename := ← options.rename.read .ok last option }
  | "skip" => do
    option.bare
    return { options with skipped := true }
  | "skip_serializing" | "skip_deserializing" => do
    option.bare
    return { options with maybeAbsent := true }
  | "skip_serializing_if" => do
    option.ignore
    return { options with maybeAbsent := true }
  | "flatten" => .error .flattened
  | _ => do
    option.ignore
    return options

/-- Reads an attribute of a field; those of other names are of no interest. -/
def FieldOptions.readAttribute (options : FieldOptions) (entry : Attribute) :
    Except AttributeError FieldOptions :=
  match entry.name with
  | "serde" => readOptions readOption options entry.options
  | _ => .ok options

/-- Reads the attributes of a field. -/
def FieldOptions.ofAttributes (attributes : List Attribute) : Except AttributeError FieldOptions :=
  attributes.foldlM readAttribute .default

end TypedRpc.Declaration
