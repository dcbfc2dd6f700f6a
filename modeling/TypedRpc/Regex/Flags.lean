/-! Flags of regular expressions, which say how the characters after them are read. -/

namespace TypedRpc.Regex

/-- What flags say. -/
structure Flags where
  /-- Letters stand for both cases. -/
  caseless : Bool
  /-- Lines have starts and ends of their own. -/
  lines : Bool
  /-- The dot stands for line ends too. -/
  anyDot : Bool
  /-- Repetitions are lazy, and greedy when they are marked as lazy. -/
  lazy : Bool
  /-- Classes are those of all characters, not of ASCII alone. -/
  unicode : Bool
  /-- A carriage return ends lines too. -/
  carriageReturn : Bool
  /-- Blanks and comments do not count. -/
  spaced : Bool
  deriving DecidableEq, Repr

namespace Flags

/-- The flags at the start of an expression. -/
def start : Flags :=
  ⟨false, false, false, false, true, false, false⟩

/-- Turns the flag of a letter on or off. -/
def turn? (flags : Flags) (on : Bool) (letter : Char) : Option Flags :=
  match letter with
  | 'i' => some { flags with caseless := on }
  | 'm' => some { flags with lines := on }
  | 's' => some { flags with anyDot := on }
  | 'U' => some { flags with lazy := on }
  | 'u' => some { flags with unicode := on }
  | 'R' => some { flags with carriageReturn := on }
  | 'x' => some { flags with spaced := on }
  | _ => none

/-- Reads letters of flags, which are turned off after a dash. No letter and no dash may come twice, and the dash not
at the end. -/
def read? (on : Bool) (seen : List Char) (flags : Flags) : List Char → Option Flags
  | [] => if seen.head? == some '-' then none else some flags
  | c :: rest =>
    if seen.contains c then none
    else if c == '-' then read? false (c :: seen) flags rest
    else
      match flags.turn? on c with
      | some flags => read? on (c :: seen) flags rest
      | none => none

end Flags

end TypedRpc.Regex
