/-!
Rules that turn the names of fields, which are written in words with underscores between them, into names on the
wire. The rules change the case of ASCII letters only.
-/

namespace TypedRpc.Declaration

/-- A rule for the names of all fields of a record. -/
inductive RenameRule where
  /-- Leaves names as they are. -/
  | unchanged
  | lowercase
  | uppercase
  | pascalCase
  | camelCase
  | snakeCase
  | screamingSnakeCase
  | kebabCase
  | screamingKebabCase
  deriving DecidableEq, Repr

namespace RenameRule

/-- The rule of a name. -/
def ofName? : String → Option RenameRule
  | "lowercase" => some lowercase
  | "UPPERCASE" => some uppercase
  | "PascalCase" => some pascalCase
  | "camelCase" => some camelCase
  | "snake_case" => some snakeCase
  | "SCREAMING_SNAKE_CASE" => some screamingSnakeCase
  | "kebab-case" => some kebabCase
  | "SCREAMING-KEBAB-CASE" => some screamingKebabCase
  | _ => none

/-- The words without the underscores, the first letter of each in uppercase; `first` says whether a word may
begin here. -/
def capitalizeWords (first : Bool) : List Char → List Char
  | [] => []
  | c :: rest =>
    if c = '_' then capitalizeWords true rest
    else (if first then c.toUpper else c) :: capitalizeWords false rest

/-- The text with its first letter in lowercase. -/
def lowerFirst : List Char → List Char
  | [] => []
  | c :: rest => c.toLower :: rest

/-- The text with dashes for underscores. -/
def dashed (cs : List Char) : List Char :=
  cs.map fun c => if c = '_' then '-' else c

/-- What a rule makes of the characters of a name. -/
def applyChars (rule : RenameRule) (cs : List Char) : List Char :=
  match rule with
  | unchanged | snakeCase => cs
  | lowercase => cs.map Char.toLower
  | uppercase | screamingSnakeCase => cs.map Char.toUpper
  | pascalCase => capitalizeWords true cs
  | camelCase => lowerFirst (capitalizeWords true cs)
  | kebabCase => dashed cs
  | screamingKebabCase => dashed (cs.map Char.toUpper)

/-- What a rule makes of a name. -/
def apply (rule : RenameRule) (name : String) : String :=
  String.ofList (rule.applyChars name.toList)

end RenameRule

end TypedRpc.Declaration
