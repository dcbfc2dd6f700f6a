import TypedRpc.Number.Unsigned

/-! Levels of events, and limits up to which they are logged. -/

namespace TypedRpc.Logging

/-- How important an event is. -/
inductive Level where
  | error
  | warn
  | info
  | debug
  | trace
  deriving DecidableEq, Repr

namespace Level

/-- The place of a level; the more important, the lower. -/
def rank : Level → Nat
  | error => 1
  | warn => 2
  | info => 3
  | debug => 4
  | trace => 5

/-- The name of a level. -/
def name : Level → String
  | error => "ERROR"
  | warn => "WARN"
  | info => "INFO"
  | debug => "DEBUG"
  | trace => "TRACE"

/-- All levels, the most important first. -/
def all : List Level := [error, warn, info, debug, trace]

end Level

/-- The text in lowercase, as far as letters of ASCII go. -/
def lowercase (s : String) : String :=
  String.ofList (s.toList.map Char.toLower)

/-- Up to which level events are logged: the rank of a level, or zero for none. -/
structure Limit where
  rank : Nat
  deriving DecidableEq, Repr

namespace Limit

/-- No event is logged. -/
def off : Limit := ⟨0⟩

/-- Events up to a level are logged. -/
def upTo (level : Level) : Limit := ⟨level.rank⟩

/-- Events of the level are logged. -/
def allows (limit : Limit) (level : Level) : Bool :=
  level.rank ≤ limit.rank

/-- The more generous of two limits. -/
def max (a b : Limit) : Limit :=
  if a.rank ≤ b.rank then b else a

/-- The limit that a word names: a level in either case, or the rank of one. -/
def ofWord? (word : String) : Option Limit :=
  match Unsigned.parse? word with
  | some rank => if rank ≤ 5 then some ⟨rank⟩ else none
  | none =>
    if lowercase word = "off" then some off
    else (Level.all.find? fun level => lowercase level.name = lowercase word).map upTo

end Limit

end TypedRpc.Logging
