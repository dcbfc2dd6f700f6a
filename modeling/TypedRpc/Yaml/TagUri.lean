import TypedRpc.Number.Unsigned
import TypedRpc.Text.Utf8
import TypedRpc.Yaml.Cursor

/-!
The characters of tags. In a tag a percent sign and two hexadecimal digits stand for an octet, and the octets of a
character in UTF-8 stand together.
-/

namespace TypedRpc.Yaml

open TypedRpc.Text

/-- A character of names. -/
def isNameChar (c : Char) : Bool :=
  c.isAlphanum || c == '_' || c == '-'

/-- A character of tags. -/
def isTagChar (c : Char) : Bool :=
  isNameChar c || ";/?:@&=+$.%!~*'()".toList.contains c

/-- A character of tags that are given in full. -/
def isUriChar (c : Char) : Bool :=
  isTagChar c || c == ',' || c == '[' || c == ']'

namespace TagUri

/-- The octet that is written next, and what follows it. -/
def octet? : List Char → Option (UInt8 × List Char)
  | '%' :: high :: low :: rest => (Unsigned.ofDigits? 16 [high, low]).map fun n => (UInt8.ofNat n, rest)
  | _ => none

/-- How many octets follow the first one of a character. -/
def trailing? (first : UInt8) : Option Nat :=
  if first < 0x80 then some 0
  else if first < 0xC0 then none
  else if first < 0xE0 then some 1
  else if first < 0xF0 then some 2
  else if first < 0xF8 then some 3
  else none

/-- A number of octets that go on with a character, and what follows them. -/
def octets? : Nat → List Char → Option (List UInt8 × List Char)
  | 0, text => some ([], text)
  | count + 1, text => do
    let (octet, rest) ← octet? text
    if 0x80 ≤ octet && octet < 0xC0 then
      let (octets, rest) ← octets? count rest
      return (octet :: octets, rest)
    else none

/-- The character that some octets of a fitting number make; those that make none count as the replacement
character. -/
def charOf (octets : List UInt8) : Char :=
  match Utf8.decode octets with
  | .ok [c] => c
  | _ => '\ufffd'

/-- The character that is written in octets next, and what follows it. -/
def escaped? (text : List Char) : Option (Char × List Char) := do
  let (first, rest) ← octet? text
  let (more, rest) ← octets? (← trailing? first) rest
  return (charOf (first :: more), rest)

/-- The characters that a text stands for. -/
def charsOf : Nat → List Char → Except Fault (List Char)
  | 0, _ => .ok []
  | _ + 1, [] => .ok []
  | steps + 1, c :: rest =>
    if c == '%' then
      match escaped? (c :: rest) with
      | some (c, rest) => (charsOf steps rest).map (c :: ·)
      | none => .error .badTag
    else (charsOf steps rest).map (c :: ·)

/-- What a part of a tag stands for; a null character ends it. -/
def decode (text : List Char) : Except Fault String :=
  (charsOf text.length text).map fun chars => String.ofList (chars.takeWhile (· != '\x00'))

end TagUri

end TypedRpc.Yaml
