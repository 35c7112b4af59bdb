import Intake.Timestamp.Basic

/-!
# Writing timestamps

A timestamp is written as `YYYY-MM-DDTHH:MM:SSZ`, with as many groups of three digits of the second
as it needs.  Years outside 0 to 9999 carry a sign.
-/

namespace Intake

/-- A number with leading zeros up to a width. -/
def paddedChars (width n : Nat) : List Char :=
  let digits := Nat.toDigits 10 n
  List.replicate (width - digits.length) '0' ++ digits

namespace Timestamp

def yearChars (year : Int) : List Char :=
  if 0 ≤ year ∧ year ≤ 9999 then paddedChars 4 year.toNat
  else (if year < 0 then '-' else '+') :: paddedChars 4 year.natAbs

def fractionChars (nano : Nat) : List Char :=
  if nano = 0 then []
  else if nano % 1000000 = 0 then '.' :: paddedChars 3 (nano / 1000000)
  else if nano % 1000 = 0 then '.' :: paddedChars 6 (nano / 1000)
  else '.' :: paddedChars 9 nano

def toChars (t : Timestamp) : List Char :=
  yearChars t.date.year ++ '-' :: paddedChars 2 t.date.month ++ '-' :: paddedChars 2 t.date.day ++
    'T' :: paddedChars 2 t.time.hour ++ ':' :: paddedChars 2 t.time.minute ++
    ':' :: paddedChars 2 t.time.second ++ fractionChars t.time.nano ++ ['Z']

def toString (t : Timestamp) : String := String.ofList t.toChars

end Timestamp

end Intake
