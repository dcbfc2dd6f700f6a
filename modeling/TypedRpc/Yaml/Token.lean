import TypedRpc.Yaml.Scalar
import TypedRpc.Yaml.TagUri

/-!
Tokens of a YAML text: the scalars, the marks that are written, and those that indentation implies. A key that is
not marked as one is known by the colon after it, so its mark is put in front of it when the colon is met.
-/

namespace TypedRpc.Yaml

/-- A token. -/
inductive Token where
  | versionDirective (major minor : Nat)
  /-- What a handle stands for in tags. -/
  | tagDirective (handle expansion : String)
  | documentStart
  | documentEnd
  | blockSequenceStart
  | blockMappingStart
  | blockEnd
  | flowSequenceStart
  | flowSequenceEnd
  | flowMappingStart
  | flowMappingEnd
  | blockEntry
  | flowEntry
  | key
  | value
  | anchor (name : String)
  | alias (name : String)
  | tag (handle suffix : String)
  | scalar (style : ScalarStyle) (text : String)
  deriving DecidableEq, Repr

/-- A place where a key may begin. -/
structure PossibleKey where
  /-- How many tokens come before it. -/
  place : Nat
  index : Nat
  line : Nat
  column : Nat
  /-- Nothing else than a key can begin there. -/
  required : Bool

/-- A reader of tokens in the middle of a text. -/
structure Scanner where
  cursor : Cursor
  tokens : List Token
  /-- The indentation of the innermost block; outside all blocks it is less than zero. -/
  indent : Int
  /-- The indentations of the blocks around it. -/
  outerIndents : List Int
  /-- Where a key may have begun in the innermost flow collection. -/
  key : Option PossibleKey
  /-- Where keys may have begun in the collections around it. -/
  outerKeys : List (Option PossibleKey)
  /-- A key may begin at the next token. -/
  keyAllowed : Bool

/-- Reads tokens. -/
abbrev Scan := StateT Scanner (Except Fault)

namespace Scanner

/-- The reader at the beginning of a text. -/
def start (text : List Char) : Scanner :=
  ⟨.start text, [], -1, [], none, [], true⟩

/-- The place is inside a flow collection. -/
def inFlow (s : Scanner) : Bool :=
  !s.outerKeys.isEmpty

/-- Adds a token. -/
def emit (token : Token) : Scan Unit :=
  modify fun s => { s with tokens := s.tokens ++ [token] }

/-- Goes on at a place. -/
def goTo (c : Cursor) : Scan Unit :=
  modify fun s => { s with cursor := c }

/-- Says whether a key may begin at the next token. -/
def allowKey (allowed : Bool) : Scan Unit :=
  modify fun s => { s with keyAllowed := allowed }

/-! ## Blanks and keys -/

/-- Skips blanks and comments. Tabs do not count as blanks where a key may begin. -/
def skipBlanks : Nat → Scan Unit
  | 0 => pure ()
  | steps + 1 => do
    let s ← get
    let c := if s.cursor.column == 0 && s.cursor.next '\ufeff' then s.cursor.skip 1 else s.cursor
    let c := (c.takeWhile fun char => char == ' ' || (char == '\t' && (s.inFlow || !s.keyAllowed))).2
    let c := if c.next '#' then c.skipLine else c
    match c.lineBreak? with
    | some (_, c) =>
      goTo c
      if !s.inFlow then allowKey true
      skipBlanks steps
    | none => goTo c

/-- A key that begins there may have its colon here: in the same line and not too far away. -/
def inReach (c : Cursor) (key : PossibleKey) : Bool :=
  key.line == c.line && c.index ≤ key.index + 1024

/-- Gives up places where a key may have begun when the colon is out of reach. -/
def dropStale (c : Cursor) : Option PossibleKey → Except Fault (Option PossibleKey)
  | some key =>
    if inReach c key then .ok (some key)
    else if key.required then .error .missingColon
    else .ok none
  | none => .ok none

/-- Gives up all places whose colon is out of reach. -/
def dropStaleKeys : Scan Unit := do
  let s ← get
  let key ← dropStale s.cursor s.key
  let outerKeys ← s.outerKeys.mapM fun outer => liftM (dropStale s.cursor outer)
  set { s with key, outerKeys }

/-- Gives up the innermost place where a key may have begun. -/
def dropKey : Scan Unit := do
  let s ← get
  if s.key.any (·.required) then throw .missingColon
  set { s with key := none }

/-- Remembers that a key may begin here. -/
def saveKey : Scan Unit := do
  if (← get).keyAllowed then
    dropKey
    let s ← get
    let c := s.cursor
    set { s with key := some ⟨s.tokens.length, c.index, c.line, c.column, !s.inFlow && s.indent == c.column⟩ }

/-! ## Blocks -/

/-- Closes blocks that are indented more than a column. -/
def closeBlocks (column : Int) : Nat → Scan Unit
  | 0 => pure ()
  | steps + 1 => do
    let s ← get
    if !s.inFlow && column < s.indent then
      set { s with
        tokens := s.tokens ++ [Token.blockEnd]
        indent := s.outerIndents.headD (-1)
        outerIndents := s.outerIndents.tail }
      closeBlocks column steps

/-- Closes all blocks that are indented more than a column. -/
def closeTo (column : Int) : Scan Unit := do
  closeBlocks column ((← get).outerIndents.length + 1)

/-- Opens a block at a column if it is indented more than the innermost one; its token goes to the given place. -/
def openBlock (column : Int) (place : Nat) (token : Token) : Scan Unit :=
  modify fun s =>
    if !s.inFlow && s.indent < column then
      { s with
        tokens := s.tokens.take place ++ token :: s.tokens.drop place
        indent := column
        outerIndents := s.indent :: s.outerIndents }
    else s

/-- Opens a block at the next token. -/
def openBlockHere (token : Token) : Scan Unit := do
  let s ← get
  if !s.inFlow && !s.keyAllowed then throw .misplaced
  openBlock s.cursor.column s.tokens.length token

/-! ## Tokens -/

/-- A token of some characters. -/
def mark (token : Token) (length : Nat) : Scan Unit := do
  goTo ((← get).cursor.skip length)
  emit token

/-- A token between documents. -/
def documentMark (token : Token) : Scan Unit := do
  closeTo (-1)
  dropKey
  allowKey false
  mark token 3

/-- The beginning of a flow collection. -/
def flowStart (token : Token) : Scan Unit := do
  saveKey
  modify fun s => { s with key := none, outerKeys := s.key :: s.outerKeys }
  allowKey true
  mark token 1

/-- The end of a flow collection. -/
def flowEnd (token : Token) : Scan Unit := do
  dropKey
  modify fun s =>
    match s.outerKeys with
    | key :: outerKeys => { s with key, outerKeys }
    | [] => s
  allowKey false
  mark token 1

/-- The beginning of an entry of a block sequence. -/
def blockEntry : Scan Unit := do
  openBlockHere .blockSequenceStart
  dropKey
  allowKey true
  mark .blockEntry 1

/-- The mark of a key. -/
def explicitKey : Scan Unit := do
  openBlockHere .blockMappingStart
  dropKey
  allowKey (!(← get).inFlow)
  mark .key 1

/-- The colon of a value. If a key may have begun before it, that was a key. -/
def value : Scan Unit := do
  let s ← get
  match s.key with
  | some key =>
    set { s with tokens := s.tokens.take key.place ++ Token.key :: s.tokens.drop key.place, key := none }
    openBlock key.column key.place .blockMappingStart
    allowKey false
  | none =>
    openBlockHere .blockMappingStart
    allowKey (!s.inFlow)
  mark .value 1

/-- What may be stuck to the end of a name. -/
def endsName (c : Cursor) : Bool :=
  c.gapAfter 0 || (c.peek 0).any fun char =>
    char == '?' || char == ':' || char == ',' || char == ']' || char == '\x7d' || char == '%' || char == '@'
      || char == '\x60'

/-- An anchor or an alias. -/
def named (token : String → Token) : Scan Unit := do
  saveKey
  allowKey false
  let (name, c) := ((← get).cursor.skip 1).takeWhile isNameChar
  if name.isEmpty || !endsName c then throw .badName
  goTo c
  emit (token (String.ofList name))

/-- A part of a tag: the characters that count, and what they stand for. -/
def readTagPart (c : Cursor) (counts : Char → Bool) : Except Fault (String × Bool × Cursor) := do
  let (part, c) := c.takeWhile counts
  return (← TagUri.decode part, part.isEmpty, c)

/-- Reads a tag: outright in angle brackets, with a handle between exclamation marks, or with the primary handle.
The exclamation mark alone is a tag without a handle. -/
def readTag (c : Cursor) : Except Fault (Token × Cursor) := do
  if c.peek 1 == some '<' then
    let (uri, isEmpty, c) ← readTagPart (c.skip 2) isUriChar
    if isEmpty || !c.next '>' then throw .badTag
    return (.tag "" uri, c.skip 1)
  else
    let (name, after) := (c.skip 1).takeWhile isNameChar
    if after.next '!' then
      let (suffix, isEmpty, c) ← readTagPart (after.skip 1) isTagChar
      if isEmpty then throw .badTag
      return (.tag (String.ofList ('!' :: name ++ ['!'])) suffix, c)
    else
      let (suffix, _, c) ← readTagPart (c.skip 1) isTagChar
      return (if suffix.isEmpty then .tag "" "!" else .tag "!" suffix, c)

/-- A tag. -/
def tag : Scan Unit := do
  saveKey
  allowKey false
  let s ← get
  let (token, c) ← readTag s.cursor
  if !(c.gapAfter 0 || (s.inFlow && c.next ',')) then throw .badTag
  goTo c
  emit token

/-- Reads a number of a version, which has nine digits at most. -/
def readVersionNumber (c : Cursor) : Except Fault (Nat × Cursor) :=
  let (digits, c) := c.takeWhile Char.isDigit
  match Unsigned.ofDigits? 10 digits with
  | some n => if digits.length ≤ 9 then .ok (n, c) else .error .badDirective
  | none => .error .badDirective

/-- Reads the version after its directive. -/
def readVersion (c : Cursor) : Except Fault (Token × Cursor) := do
  let (major, c) ← readVersionNumber c.skipSpacing
  if !c.next '.' then throw .badDirective
  let (minor, c) ← readVersionNumber (c.skip 1)
  return (.versionDirective major minor, c)

/-- Reads a handle: an exclamation mark alone, or a name between two. -/
def readHandle (c : Cursor) : Except Fault (String × Cursor) := do
  if !c.next '!' then throw .badDirective
  let (name, after) := (c.skip 1).takeWhile isNameChar
  if after.next '!' then return (String.ofList ('!' :: name ++ ['!']), after.skip 1)
  else if name.isEmpty then return ("!", after)
  else throw .badDirective

/-- Reads the handle and what it stands for after their directive. -/
def readTagDirective (c : Cursor) : Except Fault (Token × Cursor) := do
  let (handle, c) ← readHandle c.skipSpacing
  if !c.atBlank then throw .badDirective
  let (expansion, isEmpty, c) ← readTagPart c.skipSpacing isUriChar
  if isEmpty || !c.gapAfter 0 then throw .badDirective
  return (.tagDirective handle expansion, c)

/-- A directive, which fills a line. -/
def directive : Scan Unit := do
  closeTo (-1)
  dropKey
  allowKey false
  let (name, c) := ((← get).cursor.skip 1).takeWhile isNameChar
  if !c.gapAfter 0 then throw .badDirective
  let (token, c) ←
    if name == "YAML".toList then readVersion c
    else if name == "TAG".toList then readTagDirective c
    else throw .badDirective
  let c := c.skipSpacing
  let c := if c.next '#' then c.skipLine else c
  if !c.atLineEnd then throw .badDirective
  goTo (match c.lineBreak? with
    | some (_, c) => c
    | none => c)
  emit token

/-- A text in a block. -/
def blockScalar (style : ScalarStyle) : Scan Unit := do
  dropKey
  allowKey true
  let s ← get
  let (text, c) ← readBlock (style = .folded) s.indent s.cursor
  goTo c
  emit (.scalar style text)

/-- A quoted text. -/
def quotedScalar (style : ScalarStyle) : Scan Unit := do
  saveKey
  allowKey false
  let (text, c) ← readQuoted (style = .singleQuoted) (← get).cursor
  goTo c
  emit (.scalar style text)

/-- A plain text. -/
def plainScalar : Scan Unit := do
  saveKey
  allowKey false
  let s ← get
  let (text, crosses, c) ← readPlain s.inFlow (s.indent + 1) s.cursor
  goTo c
  if crosses then allowKey true
  emit (.scalar .plain text)

/-- A character with which a plain text may begin, given what follows it. -/
def startsPlain (inFlow : Bool) (c : Cursor) (char : Char) : Bool :=
  !(isSpacing char || "-?:,[]\x7b\x7d#&*!|>'\"%@\x60".toList.contains char)
    || (char == '-' && !(c.peek 1).any isSpacing)
    || (!inFlow && (char == '?' || char == ':') && !c.gapAfter 1)

/-- The token that begins with a character. -/
def token (char : Char) : Scan Unit := do
  let s ← get
  let c := s.cursor
  if c.column == 0 && char == '%' then directive
  else if c.atMark '-' then documentMark .documentStart
  else if c.atMark '.' then documentMark .documentEnd
  else
    match char with
    | '[' => flowStart .flowSequenceStart
    | '\x7b' => flowStart .flowMappingStart
    | ']' => flowEnd .flowSequenceEnd
    | '\x7d' => flowEnd .flowMappingEnd
    | ',' => do
      dropKey
      allowKey true
      mark .flowEntry 1
    | '*' => named .alias
    | '&' => named .anchor
    | '!' => tag
    | '\'' => quotedScalar .singleQuoted
    | '"' => quotedScalar .doubleQuoted
    | _ =>
      if char == '-' && c.gapAfter 1 then blockEntry
      else if char == '?' && (s.inFlow || c.gapAfter 1) then explicitKey
      else if char == ':' && (s.inFlow || c.gapAfter 1) then value
      else if char == '|' && !s.inFlow then blockScalar .literal
      else if char == '>' && !s.inFlow then blockScalar .folded
      else if startsPlain s.inFlow c char then plainScalar
      else throw .unexpectedCharacter

/-- Reads all tokens. Each step reads at least a character. -/
def run : Nat → Scan Unit
  | 0 => pure ()
  | steps + 1 => do
    skipBlanks ((← get).cursor.rest.length + 1)
    dropStaleKeys
    let c := (← get).cursor
    match c.peek 0 with
    | none =>
      closeTo (-1)
      dropKey
    | some char =>
      closeTo c.column
      token char
      run steps

end Scanner

/-- A character that a text may hold. -/
def isPrintable (c : Char) : Bool :=
  c == '\t' || c == '\n' || c == '\r' || (' ' ≤ c && c ≤ '~') || c == '\u0085' || ('\u00a0' ≤ c && c ≤ '\ufffd')
    || '\ufffd'.toNat + 2 < c.toNat

/-- The tokens of a text. -/
def tokens (text : String) : Except Fault (List Token) :=
  let chars := text.toList
  if chars.all isPrintable then do
    let ((), s) ← (Scanner.run (chars.length + 1)).run (Scanner.start chars)
    return s.tokens
  else .error .controlCharacter

end TypedRpc.Yaml
