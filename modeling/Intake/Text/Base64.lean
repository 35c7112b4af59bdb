/-!
# Base 64

Three bytes are written as four digits of six bits each.  A last group of one or two bytes is
filled up with equals signs.  Only the form that `encode` writes is read back: no blanks, no missing
fill and no bits beyond the last byte.
-/

namespace Intake.Text.Base64

/-- The digit for a value below 64. -/
def digitChar (n : Nat) : Char :=
  if n < 26 then Char.ofNat ('A'.toNat + n)
  else if n < 52 then Char.ofNat ('a'.toNat + (n - 26))
  else if n < 62 then Char.ofNat ('0'.toNat + (n - 52))
  else if n = 62 then '+'
  else '/'

def digit? (c : Char) : Option Nat :=
  if 'A' ≤ c ∧ c ≤ 'Z' then some (c.toNat - 'A'.toNat)
  else if 'a' ≤ c ∧ c ≤ 'z' then some (c.toNat - 'a'.toNat + 26)
  else if '0' ≤ c ∧ c ≤ '9' then some (c.toNat - '0'.toNat + 52)
  else if c = '+' then some 62
  else if c = '/' then some 63
  else none

/-- The digits of bytes. -/
def encode : List UInt8 → List Char
  | [] => []
  | [a] => [digitChar (a.toNat / 4), digitChar (a.toNat % 4 * 16), '=', '=']
  | [a, b] =>
    [digitChar (a.toNat / 4), digitChar (a.toNat % 4 * 16 + b.toNat / 16),
      digitChar (b.toNat % 16 * 4), '=']
  | a :: b :: c :: rest =>
    digitChar (a.toNat / 4) :: digitChar (a.toNat % 4 * 16 + b.toNat / 16) ::
      digitChar (b.toNat % 16 * 4 + c.toNat / 64) :: digitChar (c.toNat % 64) :: encode rest

/-- The bytes in the values of four digits. -/
def group (p q r s : Nat) : List UInt8 :=
  [UInt8.ofNat (p * 4 + q / 16), UInt8.ofNat (q % 16 * 16 + r / 4), UInt8.ofNat (r % 4 * 64 + s)]

/-- The bytes that digits stand for. -/
def decode? : List Char → Option (List UInt8)
  | [] => some []
  | [p, q, '=', '='] => do
    let p ← digit? p
    let q ← digit? q
    if q % 16 = 0 then some ((group p q 0 0).take 1) else none
  | [p, q, r, '='] => do
    let p ← digit? p
    let q ← digit? q
    let r ← digit? r
    if r % 4 = 0 then some ((group p q r 0).take 2) else none
  | p :: q :: r :: s :: rest => do
    let bytes := group (← digit? p) (← digit? q) (← digit? r) (← digit? s)
    return bytes ++ (← decode? rest)
  | _ => none

end Intake.Text.Base64
