import Intake.Decimal.Binary64

/-!
# The shortest decimal of a floating-point number

Of all decimals that round to a number we take one with the fewest digits, and of those the one
nearest to the number.  `FloatStyle` says how such a decimal is written; `jsonStyle` is the way
this library writes numbers.
-/

namespace Intake.Binary64

/-- The magnitude written out in full. -/
def exactDecimal (x : Binary64) : Decimal :=
  if 0 ≤ x.exponent then ⟨x.mantissa * Nat.pow 2 x.exponent.toNat, 0⟩
  else ⟨x.mantissa * Nat.pow 5 (-x.exponent).toNat, x.exponent⟩

/-- Decimal places before the point, counted on the magnitude scaled by `10 ^ 400`, which is at
least one for every number but zero. -/
def decimalMagnitude (x : Binary64) : Int :=
  let (num, den) := x.quotient
  (Nat.toDigits 10 (num * Nat.pow 10 400 / den)).length - 400

/-- The two neighbours of the magnitude on the grid of decimals with `count` digits, the nearer
first and of two equally near ones the even one. -/
def neighbours (x : Binary64) (count : Nat) : List Decimal :=
  let (num, den) := x.quotient
  let exponent := x.decimalMagnitude - count
  let scaledNum := if 0 ≤ exponent then num else num * Nat.pow 10 (-exponent).toNat
  let scaledDen := if 0 ≤ exponent then den * Nat.pow 10 exponent.toNat else den
  let below : Decimal := ⟨scaledNum / scaledDen, exponent⟩
  let above : Decimal := ⟨scaledNum / scaledDen + 1, exponent⟩
  if roundQuotient scaledNum scaledDen = below.digits then [below, above] else [above, below]

/-- The shortest decimal that rounds to the magnitude. -/
def shortest (x : Binary64) : Decimal :=
  if x.mantissa = 0 then ⟨0, 0⟩
  else
    let candidates := (List.range 17).flatMap fun count => x.neighbours (count + 1)
    (candidates.find? fun d => d.toBinary64? x.negative = some x).getD x.exactDecimal

/-- How a decimal is written. -/
structure FloatStyle where
  /-- The least power of ten that is written with a point alone. -/
  leastPlain : Int
  /-- The first power of ten that is written with an exponent. -/
  firstLarge : Int

/-- Magnitudes from `10 ^ (-5)` and below `10 ^ 16` have no exponent. -/
def jsonStyle : FloatStyle := ⟨-5, 16⟩

def exponentText (exponent : Int) : List Char :=
  'e' :: (if exponent < 0 then '-' else '+') :: Nat.toDigits 10 exponent.natAbs

/-- The digits up to the last one that is not zero. -/
def significantDigits (d : Decimal) : List Char :=
  ((Nat.toDigits 10 d.digits).reverse.dropWhile (· == '0')).reverse

/-- A decimal with a point, and an exponent where the style asks for one. -/
def FloatStyle.write (style : FloatStyle) (d : Decimal) : List Char :=
  let digits := significantDigits d
  let places := d.magnitude
  if d.digits = 0 then ['0', '.', '0']
  else if places ≤ style.leastPlain || style.firstLarge < places then
    let tail := digits.drop 1
    digits.take 1 ++ (if tail.isEmpty then [] else '.' :: tail) ++ exponentText (places - 1)
  else if places ≤ 0 then
    ['0', '.'] ++ List.replicate (-places).toNat '0' ++ digits
  else
    let whole := digits.take places.toNat ++
      List.replicate (places.toNat - digits.length) '0'
    let fraction := digits.drop places.toNat
    whole ++ '.' :: (if fraction.isEmpty then ['0'] else fraction)

/-- The text of a number. -/
def toChars (x : Binary64) : List Char :=
  (if x.negative then ['-'] else []) ++ jsonStyle.write x.shortest

end Intake.Binary64
