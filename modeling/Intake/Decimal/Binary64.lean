/-!
# Finite binary floating-point numbers

A finite 64-bit floating-point number is `±mantissa · 2 ^ exponent`.  Every such number has one
representation here, so equality of numbers is equality of representations (the two zeros are
different numbers).  Decimals are rounded to the nearest number, ties to the even mantissa.
-/

namespace Intake

structure Binary64 where
  negative : Bool
  mantissa : Nat
  exponent : Int
  mantissa_lt : mantissa < Nat.pow 2 53
  exponent_ge : -1074 ≤ exponent
  exponent_le : exponent ≤ 971
  isLeast : Nat.pow 2 52 ≤ mantissa ∨ exponent = -1074
  deriving DecidableEq

namespace Binary64

/-- The number with these parts, if there is one. -/
def ofParts? (negative : Bool) (mantissa : Nat) (exponent : Int) : Option Binary64 :=
  if h : mantissa < Nat.pow 2 53 ∧ -1074 ≤ exponent ∧ exponent ≤ 971 ∧
      (Nat.pow 2 52 ≤ mantissa ∨ exponent = -1074) then
    some ⟨negative, mantissa, exponent, h.1, h.2.1, h.2.2.1, h.2.2.2⟩
  else none

def zero (negative : Bool) : Binary64 :=
  ⟨negative, 0, -1074, by decide, by decide, by decide, .inr rfl⟩

instance : Inhabited Binary64 := ⟨zero false⟩

/-- Numerator and denominator of the magnitude. -/
def quotient (x : Binary64) : Nat × Nat :=
  if 0 ≤ x.exponent then (x.mantissa * Nat.pow 2 x.exponent.toNat, 1)
  else (x.mantissa, Nat.pow 2 (-x.exponent).toNat)

/-- The quotient rounded to the nearest integer, a half to the even one. -/
def roundQuotient (num den : Nat) : Nat :=
  let quotient := num / den
  let twice := 2 * (num % den)
  if twice < den then quotient
  else if den < twice then quotient + 1
  else quotient + quotient % 2

/-- A positive quotient `num / den` scaled by `2 ^ (-exponent)` and rounded. -/
def scaled (num den : Nat) (exponent : Int) : Nat :=
  if 0 ≤ exponent then roundQuotient num (den * Nat.pow 2 exponent.toNat)
  else roundQuotient (num * Nat.pow 2 (-exponent).toNat) den

/-- The exponent of the greatest power of two that is at most `num / den`. -/
def log2Quotient (num den : Nat) : Int :=
  let guess := (Nat.log2 num : Int) - Nat.log2 den
  let reached :=
    if 0 ≤ guess then den * Nat.pow 2 guess.toNat ≤ num
    else den ≤ num * Nat.pow 2 (-guess).toNat
  if reached then guess else guess - 1

/-- The number nearest to `num / den`; none when that would be infinite. -/
def ofQuotient? (negative : Bool) (num den : Nat) : Option Binary64 :=
  if num = 0 then some (zero negative)
  else
    let exponent := max (-1074) (log2Quotient num den - 52)
    let mantissa := scaled num den exponent
    if mantissa = Nat.pow 2 53 then ofParts? negative (Nat.pow 2 52) (exponent + 1)
    else ofParts? negative mantissa exponent

end Binary64

/-- The decimal `digits · 10 ^ exponent`. -/
structure Decimal where
  digits : Nat
  exponent : Int
  deriving DecidableEq, Inhabited

namespace Decimal

/-- How many decimal places stand before the point when the first digit is not zero. -/
def magnitude (d : Decimal) : Int :=
  (Nat.toDigits 10 d.digits).length + d.exponent

/-- The nearest floating-point number.  Magnitudes far outside the range are decided by their
size alone. -/
def toBinary64? (negative : Bool) (d : Decimal) : Option Binary64 :=
  if d.digits = 0 then some (.zero negative)
  else if 310 < d.magnitude then none
  else if d.magnitude < -330 then some (.zero negative)
  else if 0 ≤ d.exponent then Binary64.ofQuotient? negative (d.digits * Nat.pow 10 d.exponent.toNat) 1
  else Binary64.ofQuotient? negative d.digits (Nat.pow 10 (-d.exponent).toNat)

end Decimal

end Intake
