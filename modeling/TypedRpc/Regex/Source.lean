import TypedRpc.Regex.Flags
import TypedRpc.Text.Blank

/-! A regular expression in the middle of being read. -/

namespace TypedRpc.Regex

open TypedRpc.Text

/-- What is left of an expression, and what came before as far as it counts. -/
structure Source where
  rest : List Char
  flags : Flags
  /-- The names of groups. -/
  names : List String

/-- Reads a part of an expression, which may be none. -/
abbrev Read := StateT Source Option

namespace Read

/-- What is left. -/
def rest : Read (List Char) := do
  return (← get).rest

/-- The flags that count. -/
def flags : Read Flags := do
  return (← get).flags

/-- Goes on with a rest. -/
def goTo (rest : List Char) : Read Unit :=
  modify fun s => { s with rest }

/-- What follows blanks and comments, which end with their lines. -/
def withoutSpace (comment : Bool) : List Char → List Char
  | [] => []
  | c :: rest =>
    if comment then withoutSpace (c != '\n') rest
    else if isBlank c then withoutSpace false rest
    else if c == '#' then withoutSpace true rest
    else c :: rest

/-- A text without what does not count at its start. -/
def unspaced (flags : Flags) (text : List Char) : List Char :=
  if flags.spaced then withoutSpace false text else text

/-- Goes over blanks and comments if they do not count. -/
def skipSpace : Read Unit :=
  modify fun s => { s with rest := unspaced s.flags s.rest }

/-- Goes over the next character and the blanks after it. -/
def skip : Read Unit := do
  goTo (← rest).tail
  skipSpace

/-- The next character, which has to be there and stays. -/
def next : Read Char := do
  match ← rest with
  | c :: _ => return c
  | [] => failure

/-- Goes over a text if it comes next. -/
def skipText (text : String) : Read Bool := do
  let chars := text.toList
  let rest ← rest
  if chars.isPrefixOf rest then
    goTo (rest.drop chars.length)
    return true
  else return false

end Read

end TypedRpc.Regex
