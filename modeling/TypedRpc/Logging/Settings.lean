import TypedRpc.Logging.Filter
import TypedRpc.Server.Settings

/-! How the program logs, as the environment says. -/

namespace TypedRpc.Logging

open TypedRpc.Text

/-- How events are written. -/
inductive Format where
  | json
  | pretty
  deriving DecidableEq, Repr

/-- How the program logs. -/
structure Settings where
  /-- The name of the level up to which events are logged. -/
  level : String
  format : Format
  /-- Events are written in the background. -/
  background : Bool
  /-- Further directives, with commas between them. -/
  targets : Option String
  /-- Each event tells where it comes from. -/
  located : Bool
  deriving DecidableEq, Repr

/-- The format that a word names; every word but one names the pretty one. -/
def Format.ofWord (word : String) : Format :=
  if lowercase word = "json" then .json else .pretty

namespace Settings

/-- The settings that the environment makes. -/
def ofEnvironment (environment : Server.Environment) : Settings where
  level := (environment.lookup "TSBRIDGE_LOG_LEVEL").getD "info"
  format := ((environment.lookup "TSBRIDGE_LOG_FORMAT").map Format.ofWord).getD .pretty
  background := environment.lookup "TSBRIDGE_LOG_ASYNC" = some "true"
  targets := environment.lookup "TSBRIDGE_LOG_TARGET_FILTER"
  located := environment.lookup "TSBRIDGE_LOG_INCLUDE_LOCATION" = some "true"

/-- The level that the settings name; a name that is none stands for information. -/
def leastLevel (settings : Settings) : Level :=
  (Level.all.find? fun level => lowercase level.name = lowercase settings.level).getD .info

/-- The further directives, without blanks around them. -/
def directives (settings : Settings) : List String :=
  match settings.targets with
  | none => []
  | some targets =>
    ((splitWhere (· == ',') targets.toList).map fun part => trim (String.ofList part)).filter
      fun directive => !directive.isEmpty

/-- The filter without the further directives: the one that the environment gives, if it is one, and else one for
the level. -/
def baseFilter (settings : Settings) (given : Option String) : Filter :=
  (given.bind Filter.parse?).getD (.ofDirectives [⟨.any, .upTo settings.leastLevel⟩])

/-- The filter of the settings. -/
def filter (settings : Settings) (environment : Server.Environment) : Filter :=
  (settings.directives.filterMap Directive.parse?).foldl Filter.add
    (settings.baseFilter (environment.lookup "RUST_LOG"))

/-- The further directives that are none. -/
def ignored (settings : Settings) : List String :=
  settings.directives.filter fun directive => (Directive.parse? directive).isNone

end Settings

end TypedRpc.Logging
