/-!
Finite binary floating-point numbers of 64 bits: a sign, a mantissa below `2 ^ 53` and a power of two that is at
least `2 ^ -1074`. Arithmetic is exact on the ratio and rounds once, to the nearest such number and to the even
mantissa in the middle between two. A result may be too large to be one of the numbers; `isFinite` tells.
-/

namespace TypedRpc

/-- The number `± mantissa * 2 ^ exponent`. -/
structure Binary64 where
  negative : Bool
  mantissa : Nat
  exponent : Int
  deriving DecidableEq, Repr, Inhabited

namespace Binary64

/-- The least exponent. -/
def minExponent : Int := -1074

/-- The greatest exponent. -/
def maxExponent : Int := 971

/-- The quotient of two numbers rounded to the nearest integer, to the even one in the middle. -/
def roundDiv (num den : Nat) : Nat :=
  let q := num / den
  let r := num % den
  if 2 * r < den then q else if den < 2 * r then q + 1 else q + q % 2

/-- The ratio of two numbers is at least a power of two. -/
def reaches (num den : Nat) (power : Int) : Bool :=
  if 0 ≤ power then den * Nat.pow 2 power.toNat ≤ num else den ≤ num * Nat.pow 2 (-power).toNat

/-- The exponent at which a positive ratio has a mantissa of 53 bits, or the least exponent. -/
def exponentOf (num den : Nat) : Int :=
  let power : Int := (num.log2 : Int) - den.log2
  max minExponent (if reaches num den power then power - 52 else power - 53)

/-- The number nearest to a ratio. -/
def round (negative : Bool) (num den : Nat) : Binary64 :=
  if num = 0 then ⟨negative, 0, minExponent⟩
  else
    let exponent := exponentOf num den
    let mantissa :=
      if 0 ≤ exponent then roundDiv num (den * Nat.pow 2 exponent.toNat)
      else roundDiv (num * Nat.pow 2 (-exponent).toNat) den
    if mantissa = Nat.pow 2 53 then ⟨negative, Nat.pow 2 52, exponent + 1⟩ else ⟨negative, mantissa, exponent⟩

/-- The number is in range. -/
def isFinite (x : Binary64) : Bool :=
  x.exponent ≤ maxExponent

/-- The number is a zero, of either sign. -/
def isZero (x : Binary64) : Bool :=
  x.mantissa == 0

/-- The number of the opposite sign. -/
def negate (x : Binary64) : Binary64 :=
  { x with negative := !x.negative }

/-- The magnitude as a ratio: its numerator. -/
def num (x : Binary64) : Nat :=
  x.mantissa * Nat.pow 2 x.exponent.toNat

/-- The magnitude as a ratio: its denominator. -/
def den (x : Binary64) : Nat :=
  Nat.pow 2 (-x.exponent).toNat

/-- The number nearest to a natural number. -/
def ofNat (n : Nat) : Binary64 :=
  round false n 1

/-- The number nearest to an integer. -/
def ofInt (n : Int) : Binary64 :=
  round (n < 0) n.natAbs 1

/-- The product, rounded. -/
def mul (x y : Binary64) : Binary64 :=
  round (x.negative != y.negative) (x.num * y.num) (x.den * y.den)

/-- The quotient, rounded. -/
def div (x y : Binary64) : Binary64 :=
  round (x.negative != y.negative) (x.num * y.den) (x.den * y.num)

/-- The number nearest to a power of ten. -/
def powerOfTen (n : Nat) : Binary64 :=
  ofNat (Nat.pow 10 n)

/-! ## Scaling by powers of ten -/

/-- The greatest power of ten that scales in one step. -/
def maxTens : Nat := 308

/-- Divides by the greatest power of ten `steps` times, as long as something is left, and then by the power
`rest`. -/
def scaleDown (x : Binary64) : Nat → Nat → Binary64
  | 0, rest => x.div (powerOfTen rest)
  | steps + 1, rest => if x.isZero then x else (x.div (powerOfTen maxTens)).scaleDown steps rest

/-- The significand times a power of ten, if it is in range. The significand is rounded first and every step of
the scaling rounds again, so the last digit may not be that of the nearest number. -/
def ofScientific? (significand : Nat) (tens : Int) : Option Binary64 :=
  let x := ofNat significand
  if 0 ≤ tens then
    if tens.toNat ≤ maxTens then
      let scaled := x.mul (powerOfTen tens.toNat)
      if scaled.isFinite then some scaled else none
    else if x.isZero then some x else none
  else
    let tens := (-tens).toNat
    let steps := (tens - 1) / maxTens
    some (x.scaleDown steps (tens - maxTens * steps))

end Binary64

end TypedRpc
