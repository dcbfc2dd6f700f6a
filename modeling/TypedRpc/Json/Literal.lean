import TypedRpc.Number.Shortest

/-!
Literals of JSON: strings, in which only the quote, the backslash and the control characters are escaped, and
floating-point numbers, which are written with the fewest digits that read back.
-/

namespace TypedRpc.Json

/-- A control character by the number of its code point. -/
def controlEscape (c : Char) : List Char :=
  let digits := Nat.toDigits 16 c.toNat
  ['\\', 'u'] ++ List.replicate (4 - digits.length) '0' ++ digits

/-- A character as it stands inside a string literal. -/
def escapeChar (c : Char) : List Char :=
  if c = '"' then ['\\', '"']
  else if c = '\\' then ['\\', '\\']
  else if c.toNat = 8 then ['\\', 'b']
  else if c.toNat = 12 then ['\\', 'f']
  else if c = '\n' then ['\\', 'n']
  else if c = '\r' then ['\\', 'r']
  else if c = '\t' then ['\\', 't']
  else if c.toNat < 0x20 then controlEscape c
  else [c]

/-- The literal of a string. -/
def stringLiteral (s : String) : String :=
  String.ofList ('"' :: s.toList.flatMap escapeChar ++ ['"'])

/-- How floating-point numbers are written: with a point when the first digit stands at one of these powers of
ten, and with an exponent otherwise. -/
structure FloatFormat where
  lowest : Int
  highest : Int

/-- Numbers from `1e-5` to below `1e16` are written with a point. -/
def floatFormat : FloatFormat := ⟨-5, 15⟩

/-- The digits with a point, in which zeros fill the places that the digits do not reach. -/
def positional (digits : List Char) (exponent : Int) : List Char :=
  if 0 ≤ exponent then digits ++ List.replicate exponent.toNat '0' ++ ['.', '0']
  else
    let places := (-exponent).toNat
    if places < digits.length then
      digits.take (digits.length - places) ++ '.' :: digits.drop (digits.length - places)
    else '0' :: '.' :: List.replicate (places - digits.length) '0' ++ digits

/-- The digits with a point after the first one, and the power of ten with its sign. -/
def scientific (digits : List Char) (power : Int) : List Char :=
  let fraction := digits.drop 1
  digits.take 1 ++ (if fraction.isEmpty then [] else '.' :: fraction)
    ++ 'e' :: (if 0 ≤ power then '+' else '-') :: Nat.toDigits 10 power.natAbs

/-- A number of positive sign. -/
def magnitudeLiteral (x : Binary64) : List Char :=
  if x.isZero then ['0', '.', '0']
  else
    let decimal := x.shortest
    let digits := Nat.toDigits 10 decimal.digits
    let power := decimal.exponent + (digits.length - 1 : Nat)
    if floatFormat.lowest ≤ power && power ≤ floatFormat.highest then positional digits decimal.exponent
    else scientific digits power

/-- The literal of a floating-point number. -/
def floatLiteral (x : Binary64) : String :=
  String.ofList (if x.negative then '-' :: magnitudeLiteral x else magnitudeLiteral x)

end TypedRpc.Json
