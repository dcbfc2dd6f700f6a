import TypedRpc.Json.Fault
import TypedRpc.Text.Utf8

/-!
Reading JSON from bytes. A reader moves a cursor over the text and gives a result or a fault; the cursor keeps
its position after a fault, since what comes next in the text decides where some faults are placed.

Loops over the text take the number of steps that they may need, which the length of the text bounds.
-/

namespace TypedRpc.Json

open TypedRpc.Text

/-- A position in a text: the number of bytes before it and the bytes after it. The size of the whole text bounds the
loops over it. -/
structure Cursor where
  size : Nat
  place : Nat
  rest : List UInt8

/-- The position at the start of a text. -/
def Cursor.start (text : List UInt8) : Cursor :=
  ⟨text.length, 0, text⟩

/-- A computation that moves a cursor and may meet a fault. -/
abbrev Reader (α : Type) := Cursor → Except Fault α × Cursor

namespace Reader

instance : Monad Reader where
  pure a := fun c => (.ok a, c)
  bind r f := fun c =>
    match r c with
    | (.ok a, c) => f a c
    | (.error fault, c) => (.error fault, c)

/-! ## Faults and their places -/

/-- A syntax problem in what has been consumed. -/
def failBefore {α : Type} (problem : SyntaxProblem) : Reader α := fun c =>
  (.error ⟨.notJson problem, some c.place, []⟩, c)

/-- A syntax problem in the byte that comes next, or at the end of the text. -/
def failNext {α : Type} (problem : SyntaxProblem) : Reader α := fun c =>
  (.error ⟨.notJson problem, some (if c.rest.isEmpty then c.place else c.place + 1), []⟩, c)

/-- A syntax problem at a known place. -/
def failAt {α : Type} (problem : SyntaxProblem) (place : Nat) : Reader α := fun c =>
  (.error ⟨.notJson problem, some place, []⟩, c)

/-- A shape problem, to be placed when the value has been left. -/
def failShape {α : Type} (problem : ShapeProblem) : Reader α := fun c =>
  (.error ⟨.notOfShape problem, none, []⟩, c)

/-- Reads, and places a fault without a place where the cursor then is. -/
def settled {α : Type} (r : Reader α) : Reader α := fun c =>
  match r c with
  | (.ok a, c) => (.ok a, c)
  | (.error fault, c) => (.error (fault.settle c.place), c)

/-- Reads a part of a container. -/
def within {α : Type} (segment : Segment) (r : Reader α) : Reader α := fun c =>
  match r c with
  | (.ok a, c) => (.ok a, c)
  | (.error fault, c) => (.error (fault.within segment), c)

/-- Reads `r` and then, whatever came of it, `close`; the fault of `r` counts more than that of `close`. -/
def closedBy {α : Type} (r : Reader α) (close : Reader Unit) : Reader α := fun c =>
  match r c with
  | (.ok a, c) =>
    match close c with
    | (.ok (), c) => (.ok a, c)
    | (.error fault, c) => (.error fault, c)
  | (.error fault, c) => (.error fault, (close c).2)

/-! ## Bytes -/

/-- The byte that comes next, which stays. -/
def peek : Reader (Option UInt8) := fun c => (.ok c.rest.head?, c)

/-- Takes the byte that comes next, if there is one. -/
def next : Reader (Option UInt8) := fun c =>
  match c.rest with
  | [] => (.ok none, c)
  | b :: rest => (.ok (some b), { c with place := c.place + 1, rest })

/-- Drops the byte that comes next. -/
def skip : Reader Unit := do
  let _ ← next
  return ()

/-- The number of bytes in the whole text, which is at least the number of those that are left. -/
def textSize : Reader Nat := fun c => (.ok c.size, c)

/-- Where the cursor is. -/
def here : Reader Nat := fun c => (.ok c.place, c)

/-- The code of an ASCII character. -/
def code (c : Char) : UInt8 := c.val.toUInt8

/-- The byte is one of the four blanks that JSON allows between tokens. -/
def isJsonBlank (b : UInt8) : Bool :=
  b == 0x20 || b == 0x0A || b == 0x09 || b == 0x0D

/-- The byte is a digit. -/
def isDigit (b : UInt8) : Bool :=
  0x30 ≤ b && b ≤ 0x39

/-- The value of a digit. -/
def digitValue (b : UInt8) : Nat :=
  b.toNat - 0x30

/-- Takes the bytes up to the first that fails the test. -/
def takeWhile (test : UInt8 → Bool) : Reader (List UInt8) := fun c =>
  let taken := c.rest.takeWhile test
  (.ok taken, { c with place := c.place + taken.length, rest := c.rest.drop taken.length })

/-- The next byte that is no blank, which stays. -/
def peekToken : Reader (Option UInt8) := do
  let _ ← takeWhile isJsonBlank
  peek

/-- Takes the rest of a word whose first letter has been taken, byte by byte. -/
def word : List Char → Reader Unit
  | [] => return ()
  | c :: rest => do
    match ← next with
    | none => failBefore .endInValue
    | some b => if b == code c then word rest else failBefore .expectedIdent

/-! ## Numbers -/

/-- The greatest significand that is kept exactly. -/
def maxSignificand : Nat := Nat.pow 2 64 - 1

/-- The greatest exponent that is kept exactly. -/
def maxExponent : Nat := Nat.pow 2 31 - 1

/-- Extends a number by digits as long as it stays within a limit. -/
def extend (limit : Nat) : Nat → List UInt8 → Nat × List UInt8
  | n, [] => (n, [])
  | n, d :: rest =>
    let longer := n * 10 + digitValue d
    if longer ≤ limit then extend limit longer rest else (n, d :: rest)

/-- A number as it stands in the text. -/
inductive Number where
  | integer (i : Int)
  | float (x : Binary64)

/-- A floating-point number from its parts. -/
def floatOfParts (positive : Bool) (significand : Nat) (tens : Int) : Reader Number := do
  match Binary64.ofScientific? significand tens with
  | some x => return .float (if positive then x else x.negate)
  | none => failBefore .numberOutOfRange

/-- The part after `e`, which comes next. An exponent beyond all limits makes zero or a fault. -/
def exponentPart (positive : Bool) (significand : Nat) (tens : Int) : Reader Number := do
  skip
  let sign ← peek
  if sign == some (code '+') || sign == some (code '-') then skip
  let down := sign == some (code '-')
  match ← next with
  | none => failBefore .endInValue
  | some first =>
    if !isDigit first then failBefore .invalidNumber
    else
      let start ← here
      let digits ← takeWhile isDigit
      let (exponent, tooLong) := extend maxExponent (digitValue first) digits
      if tooLong.isEmpty then
        floatOfParts positive significand (if down then tens - exponent else tens + exponent)
      else if significand != 0 && !down then
        failAt .numberOutOfRange (start + (digits.length - tooLong.length) + 1)
      else
        return .float ⟨!positive, 0, Binary64.minExponent⟩

/-- What follows the digits of a number that is not an integer. -/
def floatEnd (positive : Bool) (significand : Nat) (tens : Int) : Reader Number := do
  match ← peek with
  | some b =>
    if b == code 'e' || b == code 'E' then exponentPart positive significand tens
    else floatOfParts positive significand tens
  | none => floatOfParts positive significand tens

/-- The part after the point, which comes next. Digits that the significand cannot hold are dropped. -/
def fractionPart (positive : Bool) (significand : Nat) (tens : Int) : Reader Number := do
  skip
  let digits ← takeWhile isDigit
  if digits.isEmpty then
    match ← peek with
    | some _ => failNext .invalidNumber
    | none => failNext .endInValue
  else
    let (significand, dropped) := extend maxSignificand significand digits
    floatEnd positive significand (tens - (digits.length - dropped.length : Nat))

/-- What follows the digits before the point when they are too many for the significand. -/
def longEnd (positive : Bool) (significand : Nat) (tens : Int) : Reader Number := do
  match ← peek with
  | some b =>
    if b == code '.' then fractionPart positive significand tens else floatEnd positive significand tens
  | none => floatEnd positive significand tens

/-- What follows the digits before the point. Without point and exponent the number is an integer, unless it is
the negative zero or below the least integer of 64 bits. -/
def integerEnd (positive : Bool) (significand : Nat) : Reader Number := do
  match ← peek with
  | some b =>
    if b == code '.' then fractionPart positive significand 0
    else if b == code 'e' || b == code 'E' then exponentPart positive significand 0
    else return integerOf positive significand
  | none => return integerOf positive significand
where
  /-- The integer with that sign, if it is one. -/
  integerOf (positive : Bool) (significand : Nat) : Number :=
    if positive then .integer significand
    else if significand = 0 || Nat.pow 2 63 < significand then .float (Binary64.ofNat significand).negate
    else .integer (-(significand : Int))

/-- A number, of which the sign has been taken. -/
def number (positive : Bool) : Reader Number := do
  match ← next with
  | none => failBefore .endInValue
  | some first =>
    if !isDigit first then failBefore .invalidNumber
    else if first == code '0' then
      match ← peek with
      | some b => if isDigit b then failNext .invalidNumber else integerEnd positive 0
      | none => integerEnd positive 0
    else
      let digits ← takeWhile isDigit
      let (significand, dropped) := extend maxSignificand (digitValue first) digits
      if dropped.isEmpty then integerEnd positive significand
      else longEnd positive significand dropped.length

/-! ## Strings -/

/-- The value of a hexadecimal digit. -/
def hexValue? (b : UInt8) : Option Nat :=
  if isDigit b then some (digitValue b)
  else if code 'a' ≤ b && b ≤ code 'f' then some (b.toNat - (code 'a').toNat + 10)
  else if code 'A' ≤ b && b ≤ code 'F' then some (b.toNat - (code 'A').toNat + 10)
  else none

/-- Four hexadecimal digits. -/
def hexEscape : Reader Nat := fun c =>
  match c.rest with
  | a :: b :: d :: e :: rest =>
    let c := { c with place := c.place + 4, rest }
    match hexValue? a, hexValue? b, hexValue? d, hexValue? e with
    | some a, some b, some d, some e => (.ok (((a * 16 + b) * 16 + d) * 16 + e), c)
    | _, _, _, _ => failBefore .invalidEscape c
  | _ => failBefore .endInString { c with place := c.place + c.rest.length, rest := [] }

/-- Takes one byte of an escape that has to be there. -/
def escapeByte : Reader UInt8 := do
  match ← next with
  | some b => return b
  | none => failBefore .endInString

/-- A code point written in hexadecimal; those above U+FFFF are written as two surrogates. -/
def unicodeEscape : Reader Char := do
  let first ← hexEscape
  if 0xDC00 ≤ first && first ≤ 0xDFFF then failBefore .loneSurrogate
  else if 0xD800 ≤ first && first ≤ 0xDBFF then
    if (← escapeByte) != code '\\' then failBefore .endOfHexEscape
    else if (← escapeByte) != code 'u' then failBefore .endOfHexEscape
    else
      let second ← hexEscape
      if 0xDC00 ≤ second && second ≤ 0xDFFF then
        return Char.ofNat (0x10000 + (first - 0xD800) * 0x400 + (second - 0xDC00))
      else failBefore .loneSurrogate
  else return Char.ofNat first

/-- The character that a one-letter escape stands for. -/
def simpleEscape? (b : UInt8) : Option Char :=
  if b == code '"' then some '"'
  else if b == code '\\' then some '\\'
  else if b == code '/' then some '/'
  else if b == code 'b' then some '\x08'
  else if b == code 'f' then some '\x0c'
  else if b == code 'n' then some '\n'
  else if b == code 'r' then some '\r'
  else if b == code 't' then some '\t'
  else none

/-- An escape, of which the backslash has been taken. -/
def escape : Reader Char := do
  let b ← escapeByte
  match simpleEscape? b with
  | some c => return c
  | none => if b == code 'u' then unicodeEscape else failBefore .invalidEscape

/-- The bytes of a string up to the closing quote, which is taken; an escape counts as the bytes of its character. -/
def stringBytes : Nat → Reader (List UInt8)
  | 0 => failBefore .endInString
  | steps + 1 => do
    match ← next with
    | none => failBefore .endInString
    | some b =>
      if b == code '"' then return []
      else if b == code '\\' then
        let c ← escape
        return String.utf8EncodeChar c ++ (← stringBytes steps)
      else if b < 0x20 then failBefore .controlCharacter
      else return b :: (← stringBytes steps)

/-- A string, of which the opening quote has been taken. Its bytes are looked at when it is complete; the place of
a malformed one is counted back from the end of the string, in the bytes that the string stands for. -/
def string : Reader String := do
  let bytes ← stringBytes ((← textSize) + 1)
  match Utf8.decode bytes with
  | .ok cs => return String.ofList cs
  | .error malformed => failAt .invalidCodePoint ((← here) - malformed.length)

/-! ## Containers -/

/-- Whether another element follows in a list, the cursor then being at it. -/
def nextElement (first : Bool) : Reader Bool := do
  match ← peekToken with
  | none => failNext .endInList
  | some b =>
    if b == code ']' then return false
    else if first then return true
    else if b == code ',' then
      skip
      match ← peekToken with
      | none => failNext .endInValue
      | some b => if b == code ']' then failNext .trailingComma else return true
    else failNext .expectedListEnd

/-- Whether another key follows in an object, the cursor then being at its opening quote. -/
def nextKey (first : Bool) : Reader Bool := do
  match ← peekToken with
  | none => failNext .endInObject
  | some b =>
    if b == code '\x7d' then return false
    else if first then
      if b == code '"' then return true else failNext .keyNotString
    else if b == code ',' then
      skip
      match ← peekToken with
      | none => failNext .endInValue
      | some b =>
        if b == code '"' then return true
        else if b == code '\x7d' then failNext .trailingComma
        else failNext .keyNotString
    else failNext .expectedObjectEnd

/-- The colon after a key. -/
def colon : Reader Unit := do
  match ← peekToken with
  | none => failNext .endInObject
  | some b => if b == code ':' then skip else failNext .expectedColon

/-- The end of a list whose wanted elements have been read. -/
def closeList : Reader Unit := do
  match ← peekToken with
  | none => failNext .endInList
  | some b =>
    if b == code ']' then skip
    else if b == code ',' then
      skip
      match ← peekToken with
      | some b => if b == code ']' then failNext .trailingComma else failNext .trailingCharacters
      | none => failNext .trailingCharacters
    else failNext .trailingCharacters

/-- The end of an object whose members have been read. -/
def closeObject : Reader Unit := do
  match ← peekToken with
  | none => failNext .endInObject
  | some b =>
    if b == code '\x7d' then skip
    else if b == code ',' then failNext .trailingComma
    else failNext .trailingCharacters

/-- The end of the text. -/
def endOfText : Reader Unit := do
  match ← peekToken with
  | none => return ()
  | some _ => failNext .trailingCharacters

/-! ## Values of the wrong kind -/

/-- Reads as much of the value that comes next as it takes to name it, and reports that it is not what was
expected. A container is named without being entered. -/
def unexpected {α : Type} (expected : String) : Reader α := settled do
  match ← peek with
  | none => failNext .expectedValue
  | some b =>
    if b == code 'n' then
      skip; word ['u', 'l', 'l']; wrong .null
    else if b == code 't' then
      skip; word ['r', 'u', 'e']; wrong (.bool true)
    else if b == code 'f' then
      skip; word ['a', 'l', 's', 'e']; wrong (.bool false)
    else if b == code '-' then
      skip; wrong (foundNumber (← number false))
    else if isDigit b then wrong (foundNumber (← number true))
    else if b == code '"' then
      skip; wrong (.string (← string))
    else if b == code '[' then wrong .sequence
    else if b == code '\x7b' then wrong .map
    else failNext .expectedValue
where
  /-- The problem that something was found. -/
  wrong (found : Found) : Reader α := failShape (.invalidType found expected)
  /-- A number that was found. -/
  foundNumber : Number → Found
    | .integer i => .integer i
    | .float x => .float x

end Reader

end TypedRpc.Json
