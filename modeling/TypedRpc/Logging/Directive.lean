import TypedRpc.Logging.Event
import TypedRpc.Logging.FieldPattern
import TypedRpc.Text.Alphanumeric
import TypedRpc.Text.Blank
import TypedRpc.Text.Split

/-!
Directives of a log filter. A directive says up to which level something is logged: the events of the targets that
begin with its own target, or, if it names a span in brackets, whatever happens inside such spans.
-/

namespace TypedRpc.Logging

open TypedRpc.Text

/-- What something is about. -/
structure Subject where
  /-- With what its target begins; it may be any if there is none. -/
  target : Option String
  /-- The name of the span. -/
  span : Option String
  field : Option FieldPattern
  deriving DecidableEq, Repr

/-- What is logged of a subject. -/
structure Directive where
  subject : Subject
  limit : Limit
  deriving DecidableEq, Repr

namespace Subject

/-- Every event. -/
def any : Subject :=
  ⟨none, none, none⟩

/-- The events of the targets that begin like this. -/
def ofTarget (target : String) : Subject :=
  ⟨some target, none, none⟩

/-- It can be told from the fields by name alone, without a look at any span. -/
def isGeneral (subject : Subject) : Bool :=
  subject.span.isNone && subject.field.all (·.value.isNone)

/-- It names a span or a field. -/
def isNarrow (subject : Subject) : Bool :=
  subject.span.isSome || subject.field.isSome

/-- The target begins as it should. -/
def fitsTarget (subject : Subject) (target : String) : Bool :=
  subject.target.all fun start => start.toList.isPrefixOf target.toList

/-- The event has the wanted target and field. -/
def fitsEvent (subject : Subject) (event : Event) : Bool :=
  subject.fitsTarget event.target && subject.field.all fun field => event.fieldNames.contains field.name

/-- The span has the wanted target, name and field, whatever the field is. -/
def fitsSpan (subject : Subject) (span : Span) : Bool :=
  subject.fitsTarget span.target && subject.span.all (· == span.name)
    && subject.field.all fun field => span.fieldNames.contains field.name

/-- The field of the span is what it should be. -/
def fitsValue (subject : Subject) (span : Span) : Bool :=
  subject.field.all fun field => field.value.all fun wanted => (span.fields.lookup field.name).any wanted.fits

/-- How specific a subject is: a longer target weighs more, and then a field does. -/
def weight (subject : Subject) : Nat :=
  2 * (match subject.target with
    | none => 0
    | some target => target.utf8ByteSize + 1)
  + (if subject.field.isSome then 1 else 0)

/-- The name of the field, which decides between subjects of the same weight. -/
def fieldName (subject : Subject) : String :=
  (subject.field.map (·.name)).getD ""

/-- The first subject is more specific than the second. -/
def outweighs (a b : Subject) : Bool :=
  b.weight < a.weight || (a.weight == b.weight && b.fieldName < a.fieldName)

end Subject

namespace Directive

/-! ## Reading -/

/-- A character with which a directive may begin. -/
def startsDirective (c : Char) : Bool :=
  c == '-' || c == ':' || c == '_' || c == '[' || isAlphanumeric c

/-- What a directive says whose limit is left out: everything is logged. -/
def everything : Limit := .upTo .trace

/-- A part of a text: some characters after some others. -/
def slice (text : List Char) (start length : Nat) : String :=
  String.ofList ((text.drop start).take length)

/-- Reads a field: its name, and what its value should be behind an equals sign. -/
def readField? (text : String) : Option FieldPattern :=
  match splitFirst '=' text.toList with
  | some (name, value) =>
    (ValuePattern.parse? (String.ofList (value.takeWhile (· != '=')))).map fun wanted =>
      ⟨String.ofList name, some wanted⟩
  | none => some ⟨text, none⟩

/-- Reads what follows a subject, given the whole text and how much of it came before: nothing, or the limit behind
an equals sign. -/
def readLimit? (text : List Char) (start : Nat) : List Char → Option Limit
  | [] => some everything
  | '=' :: _ =>
    let word := text.drop (start + 1)
    if word.isEmpty then some everything else Limit.ofWord? (String.ofList word)
  | _ => none

/-- Reads what follows the opening bracket of a span, given the whole text and how much of it came before. -/
def readSpan? (text : List Char) (target : Option String) (start : Nat) (cs : List Char) : Option Directive :=
  let (name, rest) := cs.span fun c => c != ']' && c != '\x7b'
  let next := start + name.length + 1
  match rest with
  | ']' :: rest =>
    (readLimit? text next rest).map fun limit => ⟨⟨target, some (slice text start name.length), none⟩, limit⟩
  | '\x7b' :: rest =>
    let (field, rest) := rest.span (· != '\x7d')
    match rest with
    | '\x7d' :: ']' :: rest => do
      if field.isEmpty then failure
      let wanted ← readField? (slice text next field.length)
      let span := if name.isEmpty then none else some (slice text start name.length)
      let limit ← readLimit? text (next + field.length + 2) rest
      return ⟨⟨target, span, some wanted⟩, limit⟩
    | _ => none
  | _ => none

/-- Reads a directive: a subject with a limit, a limit alone, or a subject alone. Blanks around a target alone belong
to it. Blanks in front of anything else are passed over, but what is read is then taken from as much further left. -/
def parse? (text : String) : Option Directive :=
  let all := text.toList
  let cs := trimBlanks all
  match cs with
  | [] => none
  | first :: _ =>
    if !startsDirective first then none
    else
      let (target, rest) := cs.span fun c => c != '=' && c != '['
      let named := slice all 0 target.length
      match rest with
      | [] =>
        match Limit.ofWord? text with
        | some limit => some ⟨.any, limit⟩
        | none => some ⟨.ofTarget text, everything⟩
      | '[' :: rest => readSpan? all (if target.isEmpty then none else some named) (target.length + 1) rest
      | rest => (readLimit? all target.length rest).map fun limit => ⟨.ofTarget named, limit⟩

end Directive

end TypedRpc.Logging
