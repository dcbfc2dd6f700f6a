import TypedRpc.Http.Headers
import TypedRpc.Text.Blank

/-!
Request ids: numbers of 128 bits, written as 26 digits to the base 32. The digits leave out the letters that look
like others, are read in either case, and are written in uppercase. Twenty-six digits hold 130 bits, so the two
highest bits of the first digit are lost when an id is read.
-/

namespace TypedRpc.Http

open TypedRpc.Text

/-- The id of a request. -/
structure RequestId where
  number : BitVec 128
  deriving DecidableEq, Repr, Inhabited

/-- Why a text is no id. -/
inductive RequestIdError where
  | invalidLength
  | invalidCharacter
  deriving DecidableEq, Repr

/-- The text of the error. -/
def RequestIdError.message : RequestIdError → String
  | .invalidLength => "invalid length"
  | .invalidCharacter => "invalid character"

namespace RequestId

/-- The header that carries the id in both directions. -/
def header : String := "x-request-id"

/-- How many digits an id has. -/
def length : Nat := 26

/-- The digits: the decimal ones and the letters without I, L, O and U. -/
def alphabet : List Char :=
  "0123456789ABCDEFGHJKMNPQRSTVWXYZ".toList

/-- The digit of a value below 32. -/
def digit (value : Nat) : Char :=
  alphabet.getD value '0'

/-- The value of a digit in either case. -/
def digitValue? (c : Char) : Option Nat :=
  let upper := c.toUpper
  if upper ∈ alphabet then some (alphabet.idxOf upper) else none

/-- The last `count` digits of a number. -/
def digits (number : Nat) : Nat → List Char
  | 0 => []
  | count + 1 => digits (number / 32) count ++ [digit (number % 32)]

/-- The canonical text of an id. -/
def print (id : RequestId) : String :=
  String.ofList (digits id.number.toNat length)

/-- The number that digits make, on top of a number, without the bits that do not fit. -/
def readDigits (number : BitVec 128) : List Char → Option (BitVec 128)
  | [] => some number
  | c :: rest =>
    match digitValue? c with
    | some value => readDigits (number * 32 + BitVec.ofNat 128 value) rest
    | none => none

/-- The id that a text writes. -/
def parse (s : String) : Except RequestIdError RequestId :=
  if s.utf8ByteSize = length then
    match readDigits 0 s.toList with
    | some number => .ok ⟨number⟩
    | none => .error .invalidCharacter
  else .error .invalidLength

/-- The id that the headers carry, possibly with blanks around it. -/
def ofHeaders? (headers : Headers) : Option RequestId :=
  (headers.get? header).bind fun value => (parse (trim value)).toOption

/-- The id that the headers carry, or the given new one. -/
def ofHeaders (headers : Headers) (new : RequestId) : RequestId :=
  (ofHeaders? headers).getD new

end RequestId

end TypedRpc.Http
