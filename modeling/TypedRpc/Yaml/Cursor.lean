/-!
Places in a YAML text. A place knows what follows it and in which line and column it is; columns decide about
the structure. Faults say why a text is no YAML.
-/

namespace TypedRpc.Yaml

/-- Why a text is not well formed. -/
inductive Fault where
  /-- A character that no text may hold. -/
  | controlCharacter
  /-- A character with which nothing begins. -/
  | unexpectedCharacter
  | tabIndentation
  /-- A quoted text without its end. -/
  | unterminated
  | badEscape
  | badBlockHeader
  /-- An anchor or alias without a name, or with something stuck to it. -/
  | badName
  | badTag
  | badDirective
  /-- A key without its colon. -/
  | missingColon
  /-- A colon in a flow collection with an indicator stuck to it. -/
  | unexpectedColon
  /-- An entry, key or value where none can be. -/
  | misplaced
  /-- Something else than the structure asks for. -/
  | unexpectedToken
  | unknownAlias
  | moreDocuments
  deriving DecidableEq, Repr

/-- The text of a fault. -/
def Fault.message : Fault → String
  | .controlCharacter => "control characters are not allowed"
  | .unexpectedCharacter => "found character that cannot start any token"
  | .tabIndentation => "found a tab character that violates indentation"
  | .unterminated => "found unexpected end of a quoted scalar"
  | .badEscape => "found unknown escape character"
  | .badBlockHeader => "did not find expected comment or line break"
  | .badName => "did not find expected alphabetic or numeric character"
  | .badTag => "did not find expected tag"
  | .badDirective => "found unknown directive"
  | .missingColon => "could not find expected ':'"
  | .unexpectedColon => "found unexpected ':'"
  | .misplaced => "values are not allowed in this context"
  | .unexpectedToken => "did not find expected node content"
  | .unknownAlias => "unknown anchor"
  | .moreDocuments => "deserializing from YAML containing more than one document is not supported"

/-- A space or a tab. -/
def isSpacing (c : Char) : Bool :=
  c == ' ' || c == '\t'

/-- A character that ends a line. -/
def isLineBreak (c : Char) : Bool :=
  c == '\n' || c == '\r' || c == '\u0085' || c == '\u2028' || c == '\u2029'

/-- A place in a text. -/
structure Cursor where
  rest : List Char
  /-- How many bytes come before. -/
  index : Nat
  line : Nat
  column : Nat

namespace Cursor

/-- The beginning of a text. -/
def start (text : List Char) : Cursor :=
  ⟨text, 0, 0, 0⟩

/-- The character after `ahead` others, if there is one. -/
def peek (c : Cursor) (ahead : Nat) : Option Char :=
  c.rest[ahead]?

/-- The next character is this one. -/
def next (c : Cursor) (char : Char) : Bool :=
  c.peek 0 == some char

/-- Nothing, a space or a line break comes after `ahead` characters. -/
def gapAfter (c : Cursor) (ahead : Nat) : Bool :=
  match c.peek ahead with
  | none => true
  | some char => isSpacing char || isLineBreak char

/-- A space or a line break comes next. -/
def atBlank (c : Cursor) : Bool :=
  match c.peek 0 with
  | none => false
  | some char => isSpacing char || isLineBreak char

/-- The end or a line break comes next. -/
def atLineEnd (c : Cursor) : Bool :=
  match c.peek 0 with
  | none => true
  | some char => isLineBreak char

/-- How many bytes some characters have. -/
def sizeOf (chars : List Char) : Nat :=
  chars.foldl (fun size char => size + char.utf8Size) 0

/-- The place after `count` characters of the same line. -/
def skip (c : Cursor) (count : Nat) : Cursor :=
  ⟨c.rest.drop count, c.index + sizeOf (c.rest.take count), c.line, c.column + count⟩

/-- The line break that comes next, as it counts in a text, and the place after it. -/
def lineBreak? (c : Cursor) : Option (Char × Cursor) :=
  match c.rest with
  | '\r' :: '\n' :: rest => some ('\n', ⟨rest, c.index + 2, c.line + 1, 0⟩)
  | char :: rest =>
    if isLineBreak char then
      let counted := if char == '\u2028' || char == '\u2029' then char else '\n'
      some (counted, ⟨rest, c.index + char.utf8Size, c.line + 1, 0⟩)
    else none
  | [] => none

/-- The characters up to the first that does not count, and the place there. -/
def takeWhile (c : Cursor) (counts : Char → Bool) : List Char × Cursor :=
  let taken := c.rest.takeWhile counts
  (taken, c.skip taken.length)

/-- The place after spaces and tabs. -/
def skipSpacing (c : Cursor) : Cursor :=
  (c.takeWhile isSpacing).2

/-- The place at the end of the line. -/
def skipLine (c : Cursor) : Cursor :=
  (c.takeWhile fun char => !isLineBreak char).2

/-- Three of a character stand alone at the beginning of a line. -/
def atMark (c : Cursor) (char : Char) : Bool :=
  c.column == 0 && c.rest.take 3 == [char, char, char] && c.gapAfter 3

/-- A mark between documents comes next. -/
def atDocumentMark (c : Cursor) : Bool :=
  c.atMark '-' || c.atMark '.'

end Cursor

end TypedRpc.Yaml
