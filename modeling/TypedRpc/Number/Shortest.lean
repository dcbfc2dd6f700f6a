import TypedRpc.Number.Binary64

/-!
Shortest decimals. A binary number stands for all reals that round to it; among the decimals in that interval,
those with the fewest digits are the shortest, and of these the one nearest to the number is chosen. For each
number of digits only two candidates matter, the neighbours of the number on the grid of that many digits.
-/

namespace TypedRpc

namespace Binary64

/-- The decimal `digits * 10 ^ exponent`. -/
structure Decimal where
  digits : Nat
  exponent : Int
  deriving DecidableEq, Repr

/-- The position of the first digit of a positive ratio: the greatest power of ten that is not above it. -/
def leadingTens (num den : Nat) : Int :=
  if den ≤ num then ((Nat.toDigits 10 (num / den)).length : Int) - 1
  else
    let below := (Nat.toDigits 10 (den / num)).length - 1
    if den ≤ num * Nat.pow 10 below then -(below : Int) else -((below : Int) + 1)

/-- Twice the distance between two ratios `a / b` and `c / d`, over the common denominator `b * d`. -/
def doubleGap (a b c d : Nat) : Nat :=
  2 * ((a * d - c * b) + (c * b - a * d))

/-- The decimal rounds to the number. The interval of the number reaches half way to its neighbours; below a
power of two the neighbour is half as far. Its ends belong to it when the mantissa is even. -/
def roundsBack (x : Binary64) (c : Decimal) : Bool :=
  let num := c.digits * Nat.pow 10 c.exponent.toNat
  let den := Nat.pow 10 (-c.exponent).toNat
  let gap := doubleGap num den x.num x.den
  let unit := Nat.pow 2 x.exponent.toNat * den
  let narrow := x.mantissa == Nat.pow 2 52 && minExponent < x.exponent && num * x.den < x.num * den
  let scaled := if narrow then 2 * gap else gap
  if x.mantissa % 2 == 0 then scaled ≤ unit else scaled < unit

/-- The neighbours of a number on the grid of `digits` digits, the lower one first. -/
def candidates (x : Binary64) (digits : Nat) : Decimal × Decimal :=
  let exponent := leadingTens x.num x.den - ((digits : Int) - 1)
  let lower :=
    if 0 ≤ exponent then x.num / (x.den * Nat.pow 10 exponent.toNat)
    else x.num * Nat.pow 10 (-exponent).toNat / x.den
  (⟨lower, exponent⟩, ⟨lower + 1, exponent⟩)

/-- The distance from a decimal to the number, over a denominator that both neighbours share. -/
def distance (x : Binary64) (c : Decimal) : Nat :=
  doubleGap (c.digits * Nat.pow 10 c.exponent.toNat) (Nat.pow 10 (-c.exponent).toNat) x.num x.den

/-- The neighbour with that many digits that rounds back, the nearer one if both do, the even one if both are
equally near. -/
def shortestOf (x : Binary64) (digits : Nat) : Option Decimal :=
  let (lower, upper) := x.candidates digits
  match x.roundsBack lower, x.roundsBack upper with
  | false, false => none
  | true, false => some lower
  | false, true => some upper
  | true, true =>
    let below := x.distance lower
    let above := x.distance upper
    some (if below < above then lower
      else if above < below then upper
      else if lower.digits % 2 == 0 then lower else upper)

/-- A decimal without zeros at its end, `fuel` of them at most. -/
def Decimal.trim (c : Decimal) : Nat → Decimal
  | 0 => c
  | fuel + 1 =>
    if c.digits != 0 && c.digits % 10 == 0 then Decimal.trim ⟨c.digits / 10, c.exponent + 1⟩ fuel else c

/-- Seventeen digits tell all numbers apart. -/
def maxDigits : Nat := 17

/-- The shortest decimal of a positive number. -/
def shortest (x : Binary64) : Decimal :=
  let found := (List.range maxDigits).findSome? fun i => x.shortestOf (i + 1)
  (found.getD (x.candidates maxDigits).1).trim (maxDigits + 1)

end Binary64

end TypedRpc
