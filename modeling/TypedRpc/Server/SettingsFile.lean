import TypedRpc.Server.Settings
import TypedRpc.Yaml.Node

/-!
The file of settings: a YAML mapping whose entries are settings. Entries with other keys do not count. Texts are
taken as they are written, whatever else they might mean; numbers have to be written without quotes.
-/

namespace TypedRpc.Server

open TypedRpc.Yaml

/-- Why a text is no file of settings. -/
inductive SettingsFileError where
  | malformed (fault : Fault)
  | noMapping
  /-- A key that is a collection. -/
  | badKey
  | repeated (key : String)
  /-- An entry that is no text where one is expected. -/
  | noText (key : String)
  /-- An entry that is no number where one is expected. -/
  | noNumber (key : String)
  deriving DecidableEq, Repr

/-- The text of the error. -/
def SettingsFileError.message : SettingsFileError → String
  | .malformed fault => fault.message
  | .noMapping => "invalid type: expected struct ServerConfig"
  | .badKey => "invalid type: expected field identifier"
  | .repeated key => s!"duplicate field \x60{key}\x60"
  | .noText key => s!"{key}: invalid type: expected a string"
  | .noNumber key => s!"{key}: invalid type: expected usize"

/-! ## Scalars -/

/-- A number as it may be written in a file: decimal without leading zeros, or with the mark of another base. -/
def parseNumber? (s : String) : Option Nat :=
  let cs := Unsigned.dropPlus s.toList
  match cs with
  | '0' :: 'x' :: rest => Unsigned.ofDigits? 16 rest
  | '0' :: 'o' :: rest => Unsigned.ofDigits? 8 rest
  | '0' :: 'b' :: rest => Unsigned.ofDigits? 2 rest
  | '0' :: _ :: _ => none
  | _ => Unsigned.ofDigits? 10 cs

/-- The tag of integers. -/
def integerTag : String := "tag:yaml.org,2002:int"

/-- The tag of nothing. -/
def nullTag : String := "tag:yaml.org,2002:null"

/-- The text means nothing. -/
def isNull (s : String) : Bool :=
  s == "null" || s == "Null" || s == "NULL" || s == "~"

/-- A text as it is written. -/
def textOf? : Node → Option String
  | .scalar _ _ text => some text
  | _ => none

/-- A number. -/
def numberOf? : Node → Option Nat
  | .scalar _ .plain text => parseNumber? text
  | .scalar (some tag) .literal text => if tag = integerTag then parseNumber? text else none
  | _ => none

/-- A text, or nothing; without quotes and without a tag an empty text is nothing too. -/
def optionalTextOf? : Node → Option (Option String)
  | .scalar none .plain text => some (if text.isEmpty || isNull text then none else some text)
  | .scalar (some tag) .plain text =>
    if tag = nullTag then if isNull text then some none else none
    else some (some text)
  | .scalar _ _ text => some (some text)
  | _ => none

/-! ## Entries -/

/-- Sets a setting that the layer says nothing about yet. -/
def setOnce {α : Type} (key : String) (old : Option α) (new : Except SettingsFileError α) :
    Except SettingsFileError (Option α) :=
  match old with
  | some _ => .error (.repeated key)
  | none => new.map some

/-- A text where one is expected. -/
def expectText (key : String) (node : Node) : Except SettingsFileError String :=
  match textOf? node with
  | some text => .ok text
  | none => .error (.noText key)

/-- A number where one is expected. -/
def expectNumber (key : String) (node : Node) : Except SettingsFileError Nat :=
  match numberOf? node with
  | some number => .ok number
  | none => .error (.noNumber key)

/-- A text or nothing where one is expected. -/
def expectOptionalText (key : String) (node : Node) : Except SettingsFileError (Option String) :=
  match optionalTextOf? node with
  | some text => .ok text
  | none => .error (.noText key)

namespace Layer

/-- The layer with an entry of the file. -/
def addEntry (layer : Layer) (key : String) (value : Node) : Except SettingsFileError Layer :=
  match key with
  | "addr" => do return { layer with addr := ← setOnce key layer.addr (expectText key value) }
  | "workers" => do return { layer with workers := ← setOnce key layer.workers (expectNumber key value) }
  | "max_body_bytes" => do
    return { layer with maxBodyBytes := ← setOnce key layer.maxBodyBytes (expectNumber key value) }
  | "mount_path" => do return { layer with mountPath := ← setOnce key layer.mountPath (expectText key value) }
  | "client_out" => do
    return { layer with clientOut := ← setOnce key layer.clientOut (expectOptionalText key value) }
  | _ => .ok layer

/-- The layer with the entries of the file. -/
def addEntries (layer : Layer) : List (Node × Node) → Except SettingsFileError Layer
  | [] => .ok layer
  | (key, value) :: rest =>
    match textOf? key with
    | none => .error .badKey
    | some key => do addEntries (← layer.addEntry key value) rest

/-- The layer of the tree of a file; one in which nothing is written is a mapping without entries. -/
def ofNode : Option Node → Except SettingsFileError Layer
  | none => .ok empty
  | some (.mapping entries) => empty.addEntries entries
  | some (.scalar _ style text) => if style = .plain && text.isEmpty then .ok empty else .error .noMapping
  | some (.sequence _) => .error .noMapping

/-- The layer of the text of a file. -/
def ofFile (text : String) : Except SettingsFileError Layer :=
  match Yaml.parse text with
  | .error fault => .error (.malformed fault)
  | .ok node => ofNode node

end Layer

/-! ## Loading -/

/-- Why a file of settings cannot be loaded. -/
inductive SettingsError where
  /-- The file cannot be read, for the given reason. -/
  | unreadable (path : String) (reason : String)
  | unparsable (path : String) (error : SettingsFileError)
  deriving DecidableEq, Repr

/-- The text of the error. -/
def SettingsError.message : SettingsError → String
  | .unreadable path _ => "failed to read config file " ++ path
  | .unparsable path _ => "failed to parse config file " ++ path

/-- What caused the error. -/
def SettingsError.cause : SettingsError → String
  | .unreadable _ reason => reason
  | .unparsable _ error => error.message

/-- The layer of a file, given what came of reading it. -/
def Layer.load (path : String) : Except String String → Except SettingsError Layer
  | .error reason => .error (.unreadable path reason)
  | .ok text =>
    match ofFile text with
    | .error e => .error (.unparsable path e)
    | .ok layer => .ok layer

end TypedRpc.Server
