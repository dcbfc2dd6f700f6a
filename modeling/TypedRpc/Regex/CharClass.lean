/-!
Classes of characters: ranges of code points, and what unions, intersections, differences and complements make of
them.
-/

namespace TypedRpc

/-- A class of characters. -/
inductive CharClass where
  | nothing
  | range (first last : Nat)
  | union (a b : CharClass)
  | intersection (a b : CharClass)
  | difference (a b : CharClass)
  | symmetricDifference (a b : CharClass)
  | complement (a : CharClass)
  /-- The letters of ASCII in either case. -/
  | caseless (a : CharClass)
  deriving DecidableEq, Repr

namespace CharClass

/-- The code point of a letter of ASCII in the other case. -/
def otherCase (n : Nat) : Nat :=
  if 0x41 ≤ n && n ≤ 0x5A then n + 0x20 else if 0x61 ≤ n && n ≤ 0x7A then n - 0x20 else n

/-- A code point is in the class. -/
def contains : CharClass → Nat → Bool
  | nothing, _ => false
  | range first last, n => first ≤ n && n ≤ last
  | union a b, n => a.contains n || b.contains n
  | intersection a b, n => a.contains n && b.contains n
  | difference a b, n => a.contains n && !b.contains n
  | symmetricDifference a b, n => a.contains n != b.contains n
  | complement a, n => !a.contains n
  | caseless a, n => a.contains n || a.contains (otherCase n)

/-- The class is made of some range. -/
def hasRange : CharClass → Bool
  | nothing => false
  | range _ _ => true
  | union a b | intersection a b | difference a b | symmetricDifference a b => a.hasRange || b.hasRange
  | complement a | caseless a => a.hasRange

/-- Of the code points that an octet can be, only those of ASCII are in the class. -/
def isAscii (a : CharClass) : Bool :=
  (List.range 0x80).all fun n => !a.contains (0x80 + n)

/-- The class of one character. -/
def single (c : Char) : CharClass :=
  range c.toNat c.toNat

/-- The class of some ranges of characters. -/
def ofRanges : List (Char × Char) → CharClass
  | [] => nothing
  | [(first, last)] => range first.toNat last.toNat
  | (first, last) :: rest => union (range first.toNat last.toNat) (ofRanges rest)

/-- Decimal digits. -/
def digit : CharClass :=
  ofRanges [('0', '9')]

/-- Letters, digits and the underscore. -/
def word : CharClass :=
  ofRanges [('0', '9'), ('A', 'Z'), ('_', '_'), ('a', 'z')]

/-- Blanks and line ends. -/
def space : CharClass :=
  ofRanges [('\t', '\r'), (' ', ' ')]

/-- The classes of ASCII that have names. -/
def ofName? (name : String) : Option CharClass :=
  match name with
  | "alnum" => some (ofRanges [('0', '9'), ('A', 'Z'), ('a', 'z')])
  | "alpha" => some (ofRanges [('A', 'Z'), ('a', 'z')])
  | "ascii" => some (ofRanges [('\x00', '\x7f')])
  | "blank" => some (ofRanges [('\t', '\t'), (' ', ' ')])
  | "cntrl" => some (ofRanges [('\x00', '\x1f'), ('\x7f', '\x7f')])
  | "digit" => some digit
  | "graph" => some (ofRanges [('!', '~')])
  | "lower" => some (ofRanges [('a', 'z')])
  | "print" => some (ofRanges [(' ', '~')])
  | "punct" => some (ofRanges [('!', '/'), (':', '@'), ('[', '\x60'), ('\x7b', '~')])
  | "space" => some space
  | "upper" => some (ofRanges [('A', 'Z')])
  | "word" => some word
  | "xdigit" => some (ofRanges [('0', '9'), ('A', 'F'), ('a', 'f')])
  | _ => none

end CharClass

end TypedRpc
