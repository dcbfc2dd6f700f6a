import TypedRpc.Logging.Directive

/-!
Which events are logged. Of the general directives that fit an event, the most specific one decides. An event that
they do not let pass is logged all the same inside a span about which some directive says so.
-/

namespace TypedRpc.Logging

open TypedRpc.Text

/-- The directives of a filter, at most one for each subject. -/
structure Filter where
  /-- Those that decide about events and spans by themselves. -/
  general : List Directive
  /-- Those about what happens inside spans. -/
  inside : List Directive
  /-- The most generous limit that was ever said; no span of a level beyond it is entered. -/
  ceiling : Limit
  deriving DecidableEq, Repr

namespace Filter

/-- A filter without directives, which lets nothing pass. -/
def empty : Filter :=
  ⟨[], [], .off⟩

/-- Adds a directive to some others; it replaces one of the same subject. -/
def put (directives : List Directive) (directive : Directive) : List Directive :=
  directives.filter (·.subject != directive.subject) ++ [directive]

/-- The filter with a further general directive. -/
def addGeneral (filter : Filter) (directive : Directive) : Filter :=
  { filter with general := put filter.general directive, ceiling := filter.ceiling.max directive.limit }

/-- The filter with a further directive about what happens inside spans. -/
def addInside (filter : Filter) (directive : Directive) : Filter :=
  { filter with inside := put filter.inside directive, ceiling := filter.ceiling.max directive.limit }

/-- The filter with a further directive. -/
def add (filter : Filter) (directive : Directive) : Filter :=
  if directive.subject.isGeneral then filter.addGeneral directive else filter.addInside directive

/-- The filter of some directives. One that names a field and no more counts as both kinds. -/
def ofDirectives (directives : List Directive) : Filter :=
  (directives.filter (·.subject.isNarrow)).foldl addInside
    ((directives.filter (·.subject.isGeneral)).foldl addGeneral empty)

/-- Reads a filter, a list of directives with commas between them. An empty list lets nothing pass. -/
def parse? (text : String) : Option Filter :=
  let parts := ((splitWhere (· == ',') text.toList).map String.ofList).filter fun part => !part.isEmpty
  (parts.mapM Directive.parse?).map ofDirectives

/-! ## What passes -/

/-- The more specific of a directive and the most specific of some others. -/
def mostSpecific : List Directive → Option Directive
  | [] => none
  | directive :: rest =>
    match mostSpecific rest with
    | none => some directive
    | some other => some (if directive.subject.outweighs other.subject then directive else other)

/-- The most specific of the general directives that fit allows the level. -/
def decides (filter : Filter) (fits : Subject → Bool) (level : Level) : Bool :=
  (mostSpecific (filter.general.filter fun directive => fits directive.subject)).any (·.limit.allows level)

/-- The limit for what happens inside a span. -/
def limitInside (filter : Filter) (span : Span) : Limit :=
  (filter.inside.filter fun directive =>
    directive.subject.fitsSpan span && directive.subject.fitsValue span).foldl
      (fun limit directive => limit.max directive.limit) .off

/-- Something of that level passes because it happens inside some spans. -/
def allowsInside (filter : Filter) (spans : List Span) (level : Level) : Bool :=
  spans.any fun span => (filter.limitInside span).allows level

/-- Spans of that level can be entered at all; as long as fields have to be looked at, all can. -/
def reaches (filter : Filter) (level : Level) : Bool :=
  filter.ceiling.allows level || filter.inside.any fun directive => directive.subject.field.any (·.value.isSome)

/-- A span is entered inside some others. One that some directive is about is entered whatever the directive
says. -/
def enters (filter : Filter) (spans : List Span) (span : Span) : Bool :=
  filter.reaches span.level
    && (filter.inside.any (·.subject.fitsSpan span) || filter.allowsInside spans span.level
      || filter.decides (·.fitsTarget span.target) span.level)

/-- Those of some spans, the outermost first, that are entered. -/
def entered (filter : Filter) (spans : List Span) : List Span :=
  spans.foldl (fun outer span => if filter.enters outer span then outer ++ [span] else outer) []

/-- An event inside some entered spans passes. -/
def allows (filter : Filter) (spans : List Span) (event : Event) : Bool :=
  filter.allowsInside spans event.level || filter.decides (·.fitsEvent event) event.level

end Filter

end TypedRpc.Logging
