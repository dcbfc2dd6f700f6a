/-!
Natural numbers of 64 bits as they are written: digits to some base, with a plus sign in front if need be.
-/

namespace TypedRpc.Unsigned

/-- The numbers are below this one. -/
def limit : Nat := Nat.pow 2 64

/-- The value of a digit; letters of either case stand for ten and more. -/
def digitValue? (c : Char) : Option Nat :=
  if c.isDigit then some (c.toNat - '0'.toNat)
  else if 'a' ≤ c.toLower ∧ c.toLower ≤ 'z' then some (c.toLower.toNat - 'a'.toNat + 10)
  else none

/-- The number that digits to a base make, on top of a number. -/
def readDigits (base : Nat) (number : Nat) : List Char → Option Nat
  | [] => some number
  | c :: rest =>
    match digitValue? c with
    | some value => if value < base then readDigits base (number * base + value) rest else none
    | none => none

/-- The number that one digit or more to a base make, if it is below the limit. -/
def ofDigits? (base : Nat) (cs : List Char) : Option Nat :=
  if cs.isEmpty then none else (readDigits base 0 cs).filter (· < limit)

/-- The text without a plus sign in front. -/
def dropPlus : List Char → List Char
  | '+' :: rest => rest
  | cs => cs

/-- The number that a text writes in decimal. -/
def parse? (s : String) : Option Nat :=
  ofDigits? 10 (dropPlus s.toList)

end TypedRpc.Unsigned
