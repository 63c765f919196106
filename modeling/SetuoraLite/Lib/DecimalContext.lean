import Mathlib.Data.Rat.Floor
import SetuoraLite.Lib.Python

/-!
# Decimal arithmetic

`decimal.Decimal` by value: a rational number, with the two roundings of the default
context. Every operation rounds its exact result to 28 significant digits, ties to
even; `quantize` rounds to a fixed number of places, ties away from zero, and raises
`InvalidOperation` when the result has more than 28 digits.

A decimal's exponent (how many zeros it prints) and the sign of a zero are not part of
the value. The one thing that comes in from outside is a `float`, through its `str`,
and that is exactly the decimal that a `PyFloat` is.
-/

namespace Lib

/-- The digits of the default context. -/
def decimalPrecision : Nat := 28

/-- `p / q` to the nearest integer, ties to even. -/
def divHalfEven (p q : Nat) : Nat :=
  if 2 * (p % q) < q then p / q
  else if q < 2 * (p % q) then p / q + 1
  else if p / q % 2 = 0 then p / q else p / q + 1

/-- `p / q` to the nearest integer, ties up. -/
def divHalfUp (p q : Nat) : Nat := if 2 * (p % q) < q then p / q else p / q + 1

/-- The number of decimal digits. -/
def digitCount (n : Nat) : Nat := (decDigits n).length

/-- `10 ^ e`, for any integer `e`. -/
def tenPow (e : Int) : ℚ := if 0 ≤ e then 10 ^ e.toNat else 1 / 10 ^ (-e).toNat

/-- A rounding of the magnitude at the place `e`: `rounding |x / 10^e| · 10^e`, with the
sign of `x`. -/
def roundAt (rounding : Nat → Nat → Nat) (e : Int) (x : ℚ) : ℚ :=
  let scaled := x / tenPow e
  let n : ℚ := rounding scaled.num.natAbs scaled.den
  (if x < 0 then -n else n) * tenPow e

/-- The exponent of the first significant digit of a nonzero number. -/
def leadingExponent (x : ℚ) : Int :=
  -- A quotient of numbers of `a` and `b` digits has its first digit at `a - b` or one below.
  let guess : Int := digitCount x.num.natAbs - digitCount x.den
  if tenPow guess ≤ |x| then guess else guess - 1

/-- The context's rounding, applied to the exact result of every operation. -/
def inContext (x : ℚ) : ℚ :=
  if x = 0 then 0 else roundAt divHalfEven (leadingExponent x - (decimalPrecision - 1)) x

/-- `x.quantize(Decimal(10) ** -places, rounding=ROUND_HALF_UP)`; `none` is its
`InvalidOperation`. -/
def quantizeHalfUp (places : Nat) (x : ℚ) : Option ℚ :=
  let rounded := roundAt divHalfUp (-places) x
  if 10 ^ decimalPrecision ≤ |rounded| * 10 ^ places then none else some rounded

/-- The value of a finite float. -/
def PyFloat.toRat? : PyFloat → Option ℚ
  | .finite neg d => some ((if neg then -1 else 1) * d.digits * tenPow d.exp)
  | _ => none

/-- `-f`. -/
def PyFloat.negated : PyFloat → PyFloat
  | .nan => .nan
  | .inf neg => .inf (!neg)
  | .finite neg d => .finite (!neg) d

example : quantizeHalfUp 2 (1 / 8) = some (13 / 100) := by decide +kernel

example : inContext (2 / 3) = 6666666666666666666666666667 / 10 ^ 28 := by decide +kernel

end Lib
