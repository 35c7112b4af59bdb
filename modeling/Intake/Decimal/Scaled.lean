import Intake.Decimal.Binary64

/-!
# Scaling decimals

Decimals in documents are read in floating-point arithmetic.  The leading digits that fit in 64
bits are rounded to a floating-point number, which is then multiplied or divided by a power of
ten that is itself rounded.  The result is close to the decimal and need not be the number
nearest to it.
-/

namespace Intake

namespace Binary64

/-- The product, rounded; none when it would be infinite. -/
def mul? (x y : Binary64) : Option Binary64 :=
  let (xNum, xDen) := x.quotient
  let (yNum, yDen) := y.quotient
  ofQuotient? (x.negative != y.negative) (xNum * yNum) (xDen * yDen)

/-- The quotient by a number other than zero, rounded; none when it would be infinite. -/
def div? (x y : Binary64) : Option Binary64 :=
  let (xNum, xDen) := x.quotient
  let (yNum, yDen) := y.quotient
  ofQuotient? (x.negative != y.negative) (xNum * yDen) (xDen * yNum)

/-- The greatest exponent of a finite power of ten. -/
def maxPowerOfTen : Nat := 308

def powerOfTen? (power : Nat) : Option Binary64 :=
  if power ≤ maxPowerOfTen then ofQuotient? false (Nat.pow 10 power) 1 else none

/-- Multiplies by a power of ten. -/
def grow? (x : Binary64) (power : Nat) : Option Binary64 :=
  if x.mantissa = 0 then some x else (powerOfTen? power).bind x.mul?

/-- Divides by a power of ten, by the greatest one as often as it takes. -/
def shrink? (x : Binary64) (power : Nat) : Option Binary64 :=
  if x.mantissa = 0 then some x
  else if power ≤ maxPowerOfTen then (powerOfTen? power).bind x.div?
  else do
    let step ← powerOfTen? maxPowerOfTen
    shrink? (← x.div? step) (power - maxPowerOfTen)
termination_by power
decreasing_by grind [maxPowerOfTen]

end Binary64

namespace Decimal

/-- The greatest significand. -/
def maxDigits : Nat := UInt64.size - 1

/-- A significand extended by as many digits as fit, and the number of those that do not. -/
def extend : Nat → List Nat → Nat × Nat
  | n, [] => (n, 0)
  | n, d :: rest =>
    if maxDigits < n * 10 + d then (n, rest.length + 1) else extend (n * 10 + d) rest

/-- The decimal `whole.fraction · 10 ^ power`, cut to the digits that fit. -/
def ofDigits (whole fraction : List Nat) (power : Int) : Decimal :=
  let (digits, uncounted) := extend 0 whole
  let (digits, cut) := extend digits fraction
  ⟨digits, power + uncounted + cut - fraction.length⟩

/-- The floating-point number that a decimal is read as; none when it would be infinite. -/
def scaled? (negative : Bool) (d : Decimal) : Option Binary64 := do
  let x ← Binary64.ofQuotient? negative d.digits 1
  if 0 ≤ d.exponent then x.grow? d.exponent.toNat else x.shrink? (-d.exponent).toNat

end Decimal

end Intake
