import TypedRpc.Number.Unsigned
import TypedRpc.Yaml.Cursor

/-!
Scalars of YAML: plain texts, quoted texts and texts in blocks. Inside plain and quoted texts lines are folded: a
single line break counts as a space, and of several the first does not count.
-/

namespace TypedRpc.Yaml

/-- How a scalar is written. -/
inductive ScalarStyle where
  | plain
  | singleQuoted
  | doubleQuoted
  | literal
  | folded
  deriving DecidableEq, Repr

/-! ## Gaps between words -/

/-- What stands between two words of a text. -/
structure Gap where
  /-- The spaces before any line break. -/
  spaces : List Char
  /-- The gap reaches into another line. -/
  crosses : Bool
  /-- The first line break, unless it is escaped. -/
  first : Option Char
  /-- The line breaks after the first. -/
  more : List Char

namespace Gap

/-- Nothing stands between two words. -/
def none : Gap :=
  ⟨[], false, Option.none, []⟩

/-- The gap begins with an escaped line break. -/
def escaped : Gap :=
  ⟨[], true, Option.none, []⟩

/-- What the gap counts for. -/
def fold (gap : Gap) : List Char :=
  if gap.crosses then
    match gap.first with
    | some '\n' => if gap.more.isEmpty then [' '] else gap.more
    | some char => char :: gap.more
    | Option.none => gap.more
  else gap.spaces

/-- Adds a space. -/
def addSpace (gap : Gap) (char : Char) : Gap :=
  if gap.crosses then gap else { gap with spaces := gap.spaces ++ [char] }

/-- Adds a line break. -/
def addBreak (gap : Gap) (char : Char) : Gap :=
  if gap.crosses then { gap with more := gap.more ++ [char] } else { gap with crosses := true, first := some char }

end Gap

/-- Reads a gap; in a new line, tabs may not stand left of the column `indent`. -/
def readGap (indent : Int) : Nat → Gap → Cursor → Except Fault (Gap × Cursor)
  | 0, gap, c => .ok (gap, c)
  | steps + 1, gap, c =>
    match c.lineBreak? with
    | some (char, c) => readGap indent steps (gap.addBreak char) c
    | none =>
      match c.peek 0 with
      | some char =>
        if !isSpacing char then .ok (gap, c)
        else if char == '\t' && gap.crosses && c.column < indent then .error .tabIndentation
        else readGap indent steps (gap.addSpace char) (c.skip 1)
      | none => .ok (gap, c)

/-! ## Plain texts -/

/-- The characters that structure flow collections. -/
def isFlowIndicator (c : Char) : Bool :=
  c == ',' || c == '[' || c == ']' || c == '\x7b' || c == '\x7d'

/-- Reads a word of a plain text. -/
def readWord (inFlow : Bool) : Nat → List Char → Cursor → Except Fault (List Char × Cursor)
  | 0, word, c => .ok (word, c)
  | steps + 1, word, c =>
    match c.peek 0 with
    | none => .ok (word, c)
    | some char =>
      if c.gapAfter 0 then .ok (word, c)
      else if inFlow && char == ':' && (c.peek 1).any (fun d => d == '?' || isFlowIndicator d) then
        .error .unexpectedColon
      else if (char == ':' && c.gapAfter 1) || (inFlow && isFlowIndicator char) then .ok (word, c)
      else readWord inFlow steps (word ++ [char]) (c.skip 1)

/-- Reads words and the gaps between them; tells whether a line ended after the last word. -/
def readPlainWords (inFlow : Bool) (indent : Int) :
    Nat → List Char → Gap → Cursor → Except Fault (List Char × Bool × Cursor)
  | 0, text, gap, c => .ok (text, gap.crosses, c)
  | steps + 1, text, gap, c =>
    if c.atDocumentMark || c.next '#' then .ok (text, gap.crosses, c)
    else do
      let (word, c) ← readWord inFlow c.rest.length [] c
      let (text, gap) := if word.isEmpty then (text, gap) else (text ++ gap.fold ++ word, Gap.none)
      if !c.atBlank then .ok (text, gap.crosses, c)
      else
        let (gap, c) ← readGap indent c.rest.length .none c
        if !inFlow && c.column < indent then .ok (text, gap.crosses, c)
        else readPlainWords inFlow indent steps text gap c

/-- Reads a plain text; outside flow collections it goes on in lines that are indented at least by `indent`. -/
def readPlain (inFlow : Bool) (indent : Int) (c : Cursor) : Except Fault (String × Bool × Cursor) := do
  let (text, crosses, c) ← readPlainWords inFlow indent (c.rest.length + 1) [] .none c
  return (String.ofList text, crosses, c)

/-! ## Quoted texts -/

/-- What a character stands for after a backslash. -/
def escape? : Char → Option Char
  | '0' => some '\x00'
  | 'a' => some '\x07'
  | 'b' => some '\x08'
  | 't' | '\t' => some '\t'
  | 'n' => some '\n'
  | 'v' => some '\x0b'
  | 'f' => some '\x0c'
  | 'r' => some '\r'
  | 'e' => some '\x1b'
  | ' ' => some ' '
  | '"' => some '"'
  | '/' => some '/'
  | '\\' => some '\\'
  | 'N' => some '\u0085'
  | '_' => some '\u00a0'
  | 'L' => some '\u2028'
  | 'P' => some '\u2029'
  | _ => none

/-- How many digits follow a letter after a backslash. -/
def escapeDigits? : Char → Option Nat
  | 'x' => some 2
  | 'u' => some 4
  | 'U' => some 8
  | _ => none

/-- The character of a number. -/
def charOf? (n : Nat) : Option Char :=
  if n.isValidChar then some (Char.ofNat n) else none

/-- Reads what follows a backslash. -/
def readEscape (c : Cursor) : Except Fault (Char × Cursor) :=
  match c.peek 0 with
  | none => .error .badEscape
  | some letter =>
    match escape? letter, escapeDigits? letter with
    | some char, _ => .ok (char, c.skip 1)
    | none, none => .error .badEscape
    | none, some count =>
      let digits := (c.skip 1).rest.take count
      if digits.length < count then .error .badEscape
      else
        match (Unsigned.ofDigits? 16 digits).bind charOf? with
        | some char => .ok (char, c.skip (count + 1))
        | none => .error .badEscape

/-- The quote of a style. -/
def quoteOf (single : Bool) : Char :=
  if single then '\'' else '"'

/-- Reads a quoted text up to its quote or to a gap; the gap may begin with an escaped line break. -/
def readQuotedWord (single : Bool) : Nat → List Char → Cursor → Except Fault (List Char × Gap × Cursor)
  | 0, word, c => .ok (word, .none, c)
  | steps + 1, word, c =>
    match c.peek 0 with
    | none => .ok (word, .none, c)
    | some char =>
      if c.gapAfter 0 then .ok (word, .none, c)
      else if single && char == '\'' && c.peek 1 == some '\'' then
        readQuotedWord single steps (word ++ ['\'']) (c.skip 2)
      else if char == quoteOf single then .ok (word, .none, c)
      else if !single && char == '\\' then
        match (c.skip 1).lineBreak? with
        | some (_, c) => .ok (word, .escaped, c)
        | none => do
          let (char, c) ← readEscape (c.skip 1)
          readQuotedWord single steps (word ++ [char]) c
      else readQuotedWord single steps (word ++ [char]) (c.skip 1)

/-- Reads words and gaps up to the quote. -/
def readQuotedWords (single : Bool) : Nat → List Char → Cursor → Except Fault (List Char × Cursor)
  | 0, _, _ => .error .unterminated
  | steps + 1, text, c =>
    if c.atDocumentMark || c.rest.isEmpty then .error .unterminated
    else do
      let (word, gap, c) ← readQuotedWord single c.rest.length [] c
      if !gap.crosses && c.next (quoteOf single) then .ok (text ++ word, c.skip 1)
      else
        let (gap, c) ← readGap 0 c.rest.length gap c
        readQuotedWords single steps (text ++ word ++ gap.fold) c

/-- Reads a quoted text, whose quote comes next. -/
def readQuoted (single : Bool) (c : Cursor) : Except Fault (String × Cursor) := do
  let (text, c) ← readQuotedWords single (c.rest.length + 1) [] (c.skip 1)
  return (String.ofList text, c)

/-! ## Texts in blocks -/

/-- What becomes of the line breaks at the end of a block. -/
inductive Chomping where
  | strip
  | clip
  | keep
  deriving DecidableEq

/-- Reads a chomping indicator. -/
def readChomping (c : Cursor) : Chomping × Cursor :=
  match c.peek 0 with
  | some '+' => (.keep, c.skip 1)
  | some '-' => (.strip, c.skip 1)
  | _ => (.clip, c)

/-- Reads an indentation indicator; zero is none. -/
def readIncrement (c : Cursor) : Except Fault (Nat × Cursor) :=
  match c.peek 0 with
  | some char =>
    if char == '0' then .error .badBlockHeader
    else if char.isDigit then .ok (char.toNat - '0'.toNat, c.skip 1)
    else .ok (0, c)
  | none => .ok (0, c)

/-- Reads the two indicators of a block, which may come in either order. -/
def readBlockIndicators (c : Cursor) : Except Fault (Chomping × Nat × Cursor) := do
  let (chomping, next) := readChomping c
  let (increment, next) ← readIncrement next
  if chomping = .clip then
    let (chomping, next) := if increment = 0 then (.clip, next) else readChomping next
    return (chomping, increment, next)
  else return (chomping, increment, next)

/-- Reads the empty lines before a line of a block, and its indentation. An indentation of zero is not known yet;
`widest` is the widest one seen. -/
def readBlockBreaks (indent : Nat) : Nat → Nat → List Char → Cursor → Except Fault (Nat × List Char × Cursor)
  | 0, widest, breaks, c => .ok (widest, breaks, c)
  | steps + 1, widest, breaks, c =>
    let spaces := (c.rest.takeWhile (· == ' ')).length
    let c := c.skip (if indent = 0 then spaces else min spaces (indent - c.column))
    let widest := max widest c.column
    if (indent = 0 || c.column < indent) && c.next '\t' then .error .tabIndentation
    else
      match c.lineBreak? with
      | some (char, c) => readBlockBreaks indent steps widest (breaks ++ [char]) c
      | none => .ok (widest, breaks, c)

/-- Reads the lines of a block: `pending` is the break of the last line, `breaks` are those of the empty lines after
it, and `indented` says whether it begins with a space. -/
def readBlockLines (folded : Bool) (indent : Nat) :
    Nat → List Char → List Char → List Char → Bool → Cursor →
      Except Fault (List Char × List Char × List Char × Cursor)
  | 0, text, pending, breaks, _, c => .ok (text, pending, breaks, c)
  | steps + 1, text, pending, breaks, indented, c =>
    if c.column = indent && !c.rest.isEmpty then do
      let indentedHere := (c.peek 0).any isSpacing
      let joined :=
        if folded && pending.head? == some '\n' && !indented && !indentedHere then
          if breaks.isEmpty then [' '] else breaks
        else pending ++ breaks
      let (line, c) := c.takeWhile fun char => !isLineBreak char
      let (pending, c) := match c.lineBreak? with
        | some (char, c) => ([char], c)
        | none => ([], c)
      let (_, breaks, c) ← readBlockBreaks indent (c.rest.length + 1) 0 [] c
      readBlockLines folded indent steps (text ++ joined ++ line) pending breaks indentedHere c
    else .ok (text, pending, breaks, c)

/-- Reads a block, whose indicator comes next, inside a structure of the given indentation. -/
def readBlock (folded : Bool) (outer : Int) (c : Cursor) : Except Fault (String × Cursor) := do
  let (chomping, increment, c) ← readBlockIndicators (c.skip 1)
  let c := c.skipSpacing
  let c := if c.next '#' then c.skipLine else c
  if !c.atLineEnd then throw .badBlockHeader
  let c := match c.lineBreak? with
    | some (_, c) => c
    | none => c
  let given := if increment = 0 then 0 else (max outer 0).toNat + increment
  let (widest, breaks, c) ← readBlockBreaks given (c.rest.length + 1) 0 [] c
  let indent := if given = 0 then max (max widest (outer + 1).toNat) 1 else given
  let (text, pending, breaks, c) ← readBlockLines folded indent (c.rest.length + 1) [] [] breaks false c
  let tail := match chomping with
    | .strip => []
    | .clip => pending
    | .keep => pending ++ breaks
  return (String.ofList (text ++ tail), c)

end TypedRpc.Yaml
