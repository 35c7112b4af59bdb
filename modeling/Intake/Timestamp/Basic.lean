/-!
# Points in time

A timestamp is a day of the Gregorian calendar and a time of that day in UTC, to the nanosecond.
A minute may have a leap second, numbered 60.
-/

namespace Intake

namespace Calendar

def isLeapYear (year : Int) : Bool :=
  year % 4 == 0 && (year % 100 != 0 || year % 400 == 0)

def daysInMonth (year : Int) (month : Nat) : Nat :=
  match month with
  | 2 => if isLeapYear year then 29 else 28
  | 4 | 6 | 9 | 11 => 30
  | _ => 31

def firstYear : Int := -262143

def lastYear : Int := 262142

end Calendar

open Calendar

/-- A day of the supported years. -/
structure Date where
  year : Int
  month : Nat
  day : Nat
  year_ge : firstYear ≤ year
  year_le : year ≤ lastYear
  month_pos : 1 ≤ month
  month_le : month ≤ 12
  day_pos : 1 ≤ day
  day_le : day ≤ daysInMonth year month
  deriving DecidableEq

namespace Date

def of? (year : Int) (month day : Nat) : Option Date :=
  if h : firstYear ≤ year ∧ year ≤ lastYear ∧ 1 ≤ month ∧ month ≤ 12 ∧ 1 ≤ day ∧
      day ≤ daysInMonth year month then
    some ⟨year, month, day, h.1, h.2.1, h.2.2.1, h.2.2.2.1, h.2.2.2.2.1, h.2.2.2.2.2⟩
  else none

def next? (date : Date) : Option Date :=
  if date.day < daysInMonth date.year date.month then of? date.year date.month (date.day + 1)
  else if date.month < 12 then of? date.year (date.month + 1) 1
  else of? (date.year + 1) 1 1

def previous? (date : Date) : Option Date :=
  if 1 < date.day then of? date.year date.month (date.day - 1)
  else if 1 < date.month then
    of? date.year (date.month - 1) (daysInMonth date.year (date.month - 1))
  else of? (date.year - 1) 12 31

/-- Days since the first of January 1970. -/
def dayNumber (date : Date) : Int :=
  let before := date.year - 1
  let daysBeforeYear := 365 * before + before / 4 - before / 100 + before / 400
  let daysBeforeMonth :=
    (List.range (date.month - 1)).foldl (fun days m => days + daysInMonth date.year (m + 1)) 0
  daysBeforeYear + daysBeforeMonth + (date.day - 1) - 719162

end Date

structure TimeOfDay where
  hour : Nat
  minute : Nat
  second : Nat
  nano : Nat
  hour_lt : hour < 24
  minute_lt : minute < 60
  second_le : second ≤ 60
  nano_lt : nano < 1000000000
  deriving DecidableEq

def TimeOfDay.of? (hour minute second nano : Nat) : Option TimeOfDay :=
  if h : hour < 24 ∧ minute < 60 ∧ second ≤ 60 ∧ nano < 1000000000 then
    some ⟨hour, minute, second, nano, h.1, h.2.1, h.2.2.1, h.2.2.2⟩
  else none

structure Timestamp where
  date : Date
  time : TimeOfDay
  deriving DecidableEq

namespace Timestamp

/-- Milliseconds since the start of 1970, the rest of a millisecond dropped. -/
def millis (t : Timestamp) : Int :=
  let seconds : Nat := (t.time.hour * 60 + t.time.minute) * 60 + t.time.second
  (t.date.dayNumber * 86400 + seconds) * 1000 + (t.time.nano / 1000000 : Nat)

/-- The timestamp of a local time that is so many minutes ahead of UTC; none when it falls
outside the supported years. -/
def ofLocal? (date : Date) (time : TimeOfDay) (offset : Int) : Option Timestamp :=
  let minutes : Int := (time.hour * 60 + time.minute : Nat) - offset
  let withinDay := (minutes % 1440).toNat
  let day? := if minutes < 0 then date.previous?
    else if 1440 ≤ minutes then date.next? else some date
  match day?, TimeOfDay.of? (withinDay / 60) (withinDay % 60) time.second time.nano with
  | some day, some time => some ⟨day, time⟩
  | _, _ => none

end Timestamp

end Intake
