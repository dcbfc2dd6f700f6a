import TypedRpc.Regex.Basic
import TypedRpc.Regex.Source

/-!
The smallest parts of regular expressions: characters, escapes and conditions. There is no table of the classes and
the cases of all characters, so what would need one is refused: classes with letters of their own and conditions on
words unless they are those of ASCII, and characters whose case does not count.
-/

namespace TypedRpc.Regex

namespace Read

/-! ## Escapes -/

/-- What stands for a character, for a class or for a place. -/
inductive Atom where
  /-- A character; it may be written as an octet. -/
  | char (c : Char) (octet : Bool)
  /-- A class with a letter of its own. -/
  | letterClass (chars : CharClass) (negated : Bool)
  | look (wanted : Look)
  | dot

/-- The letters that are escaped for a class. -/
def letterClass? : Char → Option Atom
  | 'd' => some (.letterClass .digit false)
  | 's' => some (.letterClass .space false)
  | 'w' => some (.letterClass .word false)
  | 'D' => some (.letterClass .digit true)
  | 'S' => some (.letterClass .space true)
  | 'W' => some (.letterClass .word true)
  | _ => none

/-- What an escaped character stands for, other than a number. Signs stand for themselves. -/
def escaped? (c : Char) : Option Atom :=
  match c with
  | 'a' => some (.char '\x07' false)
  | 'f' => some (.char '\x0c' false)
  | 't' => some (.char '\t' false)
  | 'n' => some (.char '\n' false)
  | 'r' => some (.char '\r' false)
  | 'v' => some (.char '\x0b' false)
  | 'A' => some (.look .textStart)
  | 'z' => some (.look .textEnd)
  | 'b' => some (.look .wordBoundary)
  | 'B' => some (.look .noWordBoundary)
  | '<' => some (.look .wordStart)
  | '>' => some (.look .wordEnd)
  | _ => if c.toNat < 0x80 && !c.isAlphanum then some (.char c false) else letterClass? c

/-- How many digits follow a letter that is escaped for the number of a character. -/
def digitCount? : Char → Option Nat
  | 'x' => some 2
  | 'u' => some 4
  | 'U' => some 8
  | _ => none

/-- The value of a hexadecimal digit. -/
def hexValue? (c : Char) : Option Nat :=
  let n := c.toNat
  if c.isDigit then some (n - 0x30)
  else if 'a' ≤ c && c ≤ 'f' then some (n - 0x61 + 10)
  else if 'A' ≤ c && c ≤ 'F' then some (n - 0x41 + 10)
  else none

/-- Some hexadecimal digits, which go on with a number. -/
def hexDigits : Nat → Nat → Read Nat
  | 0, number => return number
  | count + 1, number => do
    match hexValue? (← next) with
    | some value =>
      skip
      hexDigits count (number * 16 + value)
    | none => failure

/-- An escape, whose backslash comes next. -/
def escape : Read Atom := do
  goTo (← rest).tail
  let c ← next
  match digitCount? c with
  | some count =>
    skip
    let number ← hexDigits count 0
    if number.isValidChar then return .char (Char.ofNat number) (count == 2) else failure
  | none =>
    goTo (← rest).tail
    match escaped? c with
    | some atom => return atom
    | none => failure

/-! ## What characters mean -/

/-- The class of a character; the octets beyond ASCII are characters only among others. -/
def charClass (c : Char) (octet : Bool) : Read CharClass := do
  let flags ← flags
  if !flags.unicode && octet && 0x80 ≤ c.toNat then failure
  if !flags.caseless then return .single c
  if flags.unicode then failure
  return .caseless (.single c)

/-- The code point of a character in brackets. -/
def codeInBrackets (c : Char) : Read Nat := do
  if !(← flags).unicode && 0x80 ≤ c.toNat then failure
  return c.toNat

/-- A class with a letter of its own. -/
def letterClass (chars : CharClass) (negated : Bool) : Read CharClass := do
  if (← flags).unicode || negated then failure
  return chars

/-- The class of the dot. -/
def dotClass : Read CharClass := do
  let flags ← flags
  if !flags.unicode then failure
  if flags.anyDot then return .complement .nothing
  if flags.carriageReturn then return .complement (.union (.single '\r') (.single '\n'))
  return .complement (.single '\n')

/-- A condition. -/
def condition (wanted : Look) : Read Look := do
  match wanted with
  | .wordBoundary | .noWordBoundary | .wordStart | .wordEnd => if (← flags).unicode then failure else return wanted
  | _ => return wanted

/-- The expression of an atom. -/
def ofAtom : Atom → Read Regex
  | .char c octet => return .char (← charClass c octet)
  | .letterClass chars negated => return .char (← letterClass chars negated)
  | .look wanted => return .look (← condition wanted)
  | .dot => return .char (← dotClass)

/-- An atom outside brackets. -/
def atom : Read Atom := do
  let flags ← flags
  match ← next with
  | '\\' => escape
  | '.' =>
    goTo (← rest).tail
    return .dot
  | '^' =>
    goTo (← rest).tail
    return .look (if flags.lines then .lineStart flags.carriageReturn else .textStart)
  | '$' =>
    goTo (← rest).tail
    return .look (if flags.lines then .lineEnd flags.carriageReturn else .textEnd)
  | c =>
    goTo (← rest).tail
    return .char c false

end Read

end TypedRpc.Regex
