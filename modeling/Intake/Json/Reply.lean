import Intake.Json.NumberText
import Intake.Json.Shape

/-!
# Reading the replies of services

Services answer with objects.  Every field of a reply may be missing or null, and fields that are
not known are passed over; but a known field must have its type, and lists and maps hold no nulls.
The decoders here are for the types that only replies have.
-/

namespace Intake

/-- The whole number that a floating-point number is, if it is one. -/
def Binary64.whole? (x : Binary64) : Option Int :=
  let (num, den) := x.quotient
  if num % den = 0 then
    some (if x.negative then -((num / den : Nat) : Int) else ((num / den : Nat) : Int))
  else none

namespace Number

def whole? : Number → Option Int
  | .int n => some n
  | .float x => x.whole?

/-- The whole number that a number stands for, if that has at most 32 bits. -/
def int32? (n : Number) : Option Int :=
  n.whole?.filter fun i => Int32.minValue.toInt ≤ i && i ≤ Int32.maxValue.toInt

end Number

namespace Decoder

/-- Any number; its value is not looked at. -/
def number : Decoder Unit
  | .num _ => .ok ()
  | .str text =>
    if Json.NumberText.isUnbounded text then .ok () else .error (.wrongKind (.str text) "a number")
  | other => .error (.wrongKind other "a number")

def int32 : Decoder Int
  | .num n =>
    match n.int32? with
    | some i => .ok i
    | none => .error (.wrongKind (.num n) "i32")
  | other => .error (.wrongKind other "i32")

/-- The members of an object, all of one type. -/
def dictionary (item : Decoder α) : Decoder (List (String × α))
  | .obj members => members.mapM fun (name, document) => (item document).map (name, ·)
  | other => .error (.wrongKind other "a map")

end Decoder

end Intake
