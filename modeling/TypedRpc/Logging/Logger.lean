import TypedRpc.Logging.Settings

/-!
The logger of a program. There is one at most, and it stays as it was installed. An event is recorded if the
filter lets it pass, together with those of the spans around it that are entered.
-/

namespace TypedRpc.Logging

/-- A logger. -/
structure Logger where
  settings : Settings
  filter : Filter

/-- Why a logger is not installed. -/
inductive InstallError where
  | alreadyInstalled
  deriving DecidableEq, Repr

/-- The text of the error. -/
def InstallError.message : InstallError → String
  | .alreadyInstalled => "failed to initialize logging"

/-- What is recorded of an event. -/
structure Record where
  event : Event
  /-- The recorded spans around it, the outermost first. -/
  spans : List Span
  /-- It tells where it comes from. -/
  located : Bool

namespace Logger

/-- Installs a logger where there is none yet. -/
def install (current : Option Logger) (environment : Server.Environment) : Except InstallError Logger :=
  match current with
  | some _ => .error .alreadyInstalled
  | none =>
    let settings := Settings.ofEnvironment environment
    .ok ⟨settings, settings.filter environment⟩

/-- What is recorded of an event inside some spans, the outermost first. -/
def record? (logger : Logger) (spans : List Span) (event : Event) : Option Record :=
  let spans := logger.filter.entered spans
  if logger.filter.allows spans event then some ⟨event, spans, logger.settings.located⟩ else none

end Logger

/-- A span as JSON: its fields and its name. -/
def Span.toJson (span : Span) : Json.Value :=
  .object (Json.Value.sortMembers (span.fields ++ [("name", .string span.name)]))

/-- A record as JSON. The innermost span stands for itself and in the list of all. -/
def Record.toJson (record : Record) : Json.Value :=
  let spans := record.spans.map Span.toJson
  .object ([("level", .string record.event.level.name),
      ("fields", .object (("message", .string record.event.message) :: record.event.fields)),
      ("target", .string record.event.target)]
    ++ (spans.getLast?.map fun span => [("span", span), ("spans", .array spans)]).getD [])

end TypedRpc.Logging
