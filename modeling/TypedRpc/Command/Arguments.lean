import TypedRpc.Command.Basic

/-!
Reading command lines. A line names a command and gives values to its options, each at most once; the value of an
option follows it, or is stuck to it. A value is looked at when the next option comes or the line ends, so a
word that is no option at all is told first.
-/

namespace TypedRpc

/-- Why a command line is no command. -/
inductive UsageError where
  /-- Help is asked for. -/
  | help
  /-- No command is named. -/
  | noCommand
  | unknownCommand
  | unknownArgument
  /-- An option has no value, or an empty one where that is none. -/
  | noValue
  /-- The value of an option is not of its kind. -/
  | badValue
  /-- A value is stuck to an option that takes none. -/
  | unwantedValue
  /-- An option is given twice, or together with one that excludes it. -/
  | conflict
  /-- An option without which the command cannot be is not given. -/
  | missingOption
  deriving DecidableEq, Repr

/-- What the value of an option is. -/
inductive ValueKind where
  | text
  /-- A path, which is not empty. -/
  | path
  | number
  deriving DecidableEq, Repr

/-- An option of a command. -/
structure OptionSpec where
  long : String
  short : Option Char
  kind : ValueKind
  deriving DecidableEq, Repr

namespace Arguments

/-- Checks that a value is of its kind. -/
def checkValue : ValueKind → String → Except UsageError Unit
  | .text, _ => .ok ()
  | .path, value => if value.isEmpty then .error .noValue else .ok ()
  | .number, value => if (Unsigned.parse? value).isSome then .ok () else .error .badValue

/-- The options that were read: their values, and one of which the value is not looked at yet or still to come. -/
structure Reading where
  values : List (String × String)
  pending : Option (OptionSpec × Option String)

/-- Gives an option its value. -/
def Reading.give (reading : Reading) (option : OptionSpec) (value : String) : Except UsageError Reading := do
  if (reading.values.lookup option.long).isSome then throw .conflict
  checkValue option.kind value
  return ⟨reading.values ++ [(option.long, value)], none⟩

/-- Looks at the pending value. -/
def Reading.settle (reading : Reading) : Except UsageError Reading :=
  match reading.pending with
  | none => .ok reading
  | some (_, none) => .error .noValue
  | some (option, some value) => reading.give option value

/-- Begins an option, possibly with its value stuck to it. -/
def Reading.begin (reading : Reading) (option : OptionSpec) (stuck : Option String) :
    Except UsageError Reading := do
  let reading ← reading.settle
  match stuck with
  | some value => reading.give option value
  | none => return { reading with pending := some (option, none) }

/-- Asks for help. -/
def Reading.help (reading : Reading) : Except UsageError Reading := do
  let _ ← reading.settle
  throw .help

/-- The name of a long option, and the value that is stuck to it behind an equals sign. -/
def splitLong (cs : List Char) : String × Option String :=
  match Text.splitFirst '=' cs with
  | some (name, value) => (String.ofList name, some (String.ofList value))
  | none => (String.ofList cs, none)

/-- The value that is stuck to a short option, possibly behind an equals sign. -/
def stuckValue : List Char → Option String
  | [] => none
  | '=' :: value => some (String.ofList value)
  | value => some (String.ofList value)

/-- Reads a word of a command line. -/
def readWord (options : List OptionSpec) (reading : Reading) (word : String) : Except UsageError Reading :=
  match word.toList with
  | '-' :: '-' :: rest =>
    let (name, stuck) := splitLong rest
    match options.find? (·.long == name) with
    | some option => reading.begin option stuck
    | none =>
      if name != "help" then .error .unknownArgument
      else if stuck.isSome then .error .unwantedValue
      else reading.help
  | '-' :: letter :: rest =>
    match options.find? (·.short == some letter) with
    | some option => reading.begin option (stuckValue rest)
    | none => if letter = 'h' then reading.help else .error .unknownArgument
  | _ =>
    match reading.pending with
    | some (option, none) => .ok { reading with pending := some (option, some word) }
    | _ => .error .unknownArgument

/-- Reads the words of a command line. After two dashes no word can be an option, and these commands take no
others. -/
def readWords (options : List OptionSpec) (reading : Reading) : List String → Except UsageError Reading
  | [] => reading.settle
  | "--" :: rest => if rest.isEmpty then reading.settle else .error .unknownArgument
  | word :: rest => do readWords options (← readWord options reading word) rest

/-- The values of options, by their long names. -/
def readOptions (options : List OptionSpec) (words : List String) : Except UsageError (List (String × String)) := do
  return (← readWords options ⟨[], none⟩ words).values

/-! ## The commands -/

/-- The options of the command that generates. -/
def generateOptions : List OptionSpec :=
  [⟨"out", some 'o', .path⟩, ⟨"mount-path", none, .text⟩]

/-- The options of the command that serves. -/
def serveOptions : List OptionSpec :=
  [⟨"config", some 'c', .path⟩, ⟨"addr", none, .text⟩, ⟨"workers", none, .number⟩, ⟨"mount-path", none, .text⟩,
    ⟨"client-out", none, .path⟩]

/-- The options of the command that inspects. -/
def inspectOptions : List OptionSpec :=
  [⟨"handler", none, .text⟩, ⟨"define", none, .text⟩]

/-- The command that generates. -/
def readGenerate (words : List String) : Except UsageError Command := do
  let values ← readOptions generateOptions words
  match values.lookup "out" with
  | some out => return .generate out (values.lookup "mount-path")
  | none => throw .missingOption

/-- The command that serves. -/
def readServe (words : List String) : Except UsageError Command := do
  let values ← readOptions serveOptions words
  return .serve
    ⟨values.lookup "config", values.lookup "addr", (values.lookup "workers").bind Unsigned.parse?,
      values.lookup "mount-path", values.lookup "client-out"⟩

/-- The command that inspects. -/
def readInspect (words : List String) : Except UsageError Command := do
  let values ← readOptions inspectOptions words
  match values.lookup "handler", values.lookup "define" with
  | some _, some _ => throw .conflict
  | handler, define => return .inspect handler define

/-- The names of the commands; one of them asks for help. -/
def commandNames : List String :=
  ["generate", "serve", "inspect", "help"]

/-- Asks for help about a command. -/
def readHelp : List String → UsageError
  | [] => .help
  | [name] => if commandNames.contains name then .help else .unknownCommand
  | _ => .unknownCommand

/-- A word where a command should be named. -/
def readNoCommand (word : String) : UsageError :=
  match word.toList with
  | '-' :: '-' :: rest =>
    let (name, stuck) := splitLong rest
    if name != "help" then .unknownArgument else if stuck.isSome then .unwantedValue else .help
  | '-' :: 'h' :: _ => .help
  | '-' :: _ :: _ => .unknownArgument
  | _ => .unknownCommand

end Arguments

/-- Reads a command line, without the name of the program. -/
def Command.parse : List String → Except UsageError Command
  | [] | ["--"] => .error .noCommand
  | "--" :: word :: _ =>
    .error (if Arguments.commandNames.contains word then .unknownArgument else .unknownCommand)
  | "generate" :: words => Arguments.readGenerate words
  | "serve" :: words => Arguments.readServe words
  | "inspect" :: words => Arguments.readInspect words
  | "help" :: words => .error (Arguments.readHelp words)
  | word :: _ => .error (Arguments.readNoCommand word)

end TypedRpc
