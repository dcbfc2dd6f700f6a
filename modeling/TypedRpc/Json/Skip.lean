import TypedRpc.Json.Reader

/-!
Skipping a value. A value that nobody wants is only checked for its tokens: its strings may hold malformed
characters, its numbers may be out of range, and it may be nested to any depth.
-/

namespace TypedRpc.Json.Reader

/-- A container that is open. -/
inductive Frame where
  | list
  | object
  deriving DecidableEq

/-- The bracket that closes a container. -/
def Frame.close : Frame → UInt8
  | .list => code ']'
  | .object => code '\x7d'

/-- Skips digits. -/
def skipDigits : Reader Unit := do
  let _ ← takeWhile isDigit
  return ()

/-- Skips an exponent, of which the letter comes next. -/
def skipExponent : Reader Unit := do
  skip
  let sign ← peek
  if sign == some (code '+') || sign == some (code '-') then skip
  match ← next with
  | some b => if isDigit b then skipDigits else failBefore .invalidNumber
  | none => failBefore .invalidNumber

/-- Skips what follows the digits of a number before or after the point. -/
def skipExponent? : Reader Unit := do
  match ← peek with
  | some b => if b == code 'e' || b == code 'E' then skipExponent else return ()
  | none => return ()

/-- Skips what follows the digits before the point. -/
def skipFraction? : Reader Unit := do
  match ← peek with
  | some b =>
    if b == code '.' then
      skip
      let digits ← takeWhile isDigit
      if digits.isEmpty then failNext .invalidNumber else skipExponent?
    else skipExponent?
  | none => return ()

/-- Skips a number, of which the sign has been taken. -/
def skipNumber : Reader Unit := do
  match ← next with
  | none => failBefore .invalidNumber
  | some first =>
    if !isDigit first then failBefore .invalidNumber
    else if first == code '0' then
      match ← peek with
      | some b => if isDigit b then failNext .invalidNumber else skipFraction?
      | none => skipFraction?
    else
      skipDigits
      skipFraction?

/-- Skips a string, of which the opening quote has been taken. -/
def skipString : Nat → Reader Unit
  | 0 => failBefore .endInString
  | steps + 1 => do
    match ← peek with
    | none => failBefore .endInString
    | some b =>
      if b == code '"' then skip
      else if b == code '\\' then
        skip
        let e ← escapeByte
        match simpleEscape? e with
        | some _ => skipString steps
        | none =>
          if e == code 'u' then
            let _ ← hexEscape
            skipString steps
          else failBefore .invalidEscape
      else if b < 0x20 then failBefore .controlCharacter
      else
        skip
        skipString steps

/-- Skips a string of any length. -/
def skipWholeString : Reader Unit := do
  skipString ((← textSize) + 1)

/-- Skips a key and its colon. -/
def skipKey : Reader Unit := do
  match ← peekToken with
  | none => failNext .endInObject
  | some b =>
    if b == code '"' then
      skip
      skipWholeString
      colon
    else failNext .keyNotString

mutual

/-- Skips a value and then what is left of the open containers. -/
def skipValue : Nat → List Frame → Reader Unit
  | 0, _ => failNext .endInValue
  | steps + 1, open_ => do
    match ← peekToken with
    | none => failNext .endInValue
    | some b =>
      if b == code 'n' then
        skip; word ['u', 'l', 'l']; skipRest steps true open_
      else if b == code 't' then
        skip; word ['r', 'u', 'e']; skipRest steps true open_
      else if b == code 'f' then
        skip; word ['a', 'l', 's', 'e']; skipRest steps true open_
      else if b == code '-' then
        skip; skipNumber; skipRest steps true open_
      else if isDigit b then
        skipNumber; skipRest steps true open_
      else if b == code '"' then
        skip; skipWholeString; skipRest steps true open_
      else if b == code '[' then
        skip; skipRest steps false (.list :: open_)
      else if b == code '\x7b' then
        skip; skipRest steps false (.object :: open_)
      else failNext .expectedValue

/-- Skips what is left of the open containers; a comma may come first if an element has just been skipped. -/
def skipRest : Nat → Bool → List Frame → Reader Unit
  | _, _, [] => return ()
  | 0, _, _ => failNext .endInValue
  | steps + 1, afterElement, frame :: outer => do
    match ← peekToken with
    | none => failNext (match frame with | .list => .endInList | .object => .endInObject)
    | some b =>
      if b == code ',' && afterElement then
        skip
        if frame = .object then skipKey
        skipValue steps (frame :: outer)
      else if b == frame.close then
        skip
        skipRest steps true outer
      else if afterElement then
        failNext (match frame with | .list => .expectedListEnd | .object => .expectedObjectEnd)
      else
        if frame = .object then skipKey
        skipValue steps (frame :: outer)

end

/-- Skips one value. -/
def skipOne : Reader Unit := do
  skipValue (2 * (← textSize) + 2) []

end TypedRpc.Json.Reader
