import TypedRpc.Json.Printer
import TypedRpc.Logging.Level

/-!
What a program logs: events, and spans in which they happen. Both have a target, which names the part of the
program, and fields, which say what is known about them.
-/

namespace TypedRpc.Logging

/-- The fields of an event or a span, in order. -/
abbrev Fields := List (String × Json.Value)

/-- A stretch of the program's work. -/
structure Span where
  name : String
  target : String
  level : Level
  fields : Fields

/-- Something that happens. -/
structure Event where
  target : String
  level : Level
  message : String
  fields : Fields

/-- The names of an event's fields; the message is one of them. -/
def Event.fieldNames (event : Event) : List String :=
  "message" :: event.fields.map (·.1)

/-- The names of a span's fields. -/
def Span.fieldNames (span : Span) : List String :=
  span.fields.map (·.1)

end TypedRpc.Logging
