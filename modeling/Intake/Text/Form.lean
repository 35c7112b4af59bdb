import Intake.Text.Hex
import Intake.Text.Utf8

/-!
# Form encoding

In form-encoded text a plus sign stands for a space and a percent sign with two hexadecimal digits
for a byte.  A percent sign without them stands for itself.
-/

namespace Intake.Text.Form

/-- The value of a byte that is a hexadecimal digit. -/
def hexValue? (b : UInt8) : Option Nat :=
  if b < 0x80 then Hex.digit? (Char.ofNat b.toNat) else none

def plusToSpace (b : UInt8) : UInt8 := if b = 0x2B then 0x20 else b

/-- The bytes with every escape replaced by the byte it stands for. -/
def unescape : List UInt8 → List UInt8
  | [] => []
  | [a] => [a]
  | [a, b] => [a, b]
  | a :: b :: c :: rest =>
    if a = 0x25 then
      match hexValue? b, hexValue? c with
      | some high, some low => UInt8.ofNat (high * 16 + low) :: unescape rest
      | _, _ => a :: unescape (b :: c :: rest)
    else a :: unescape (b :: c :: rest)

/-- The bytes that a text stands for. -/
def decodedBytes (text : String) : List UInt8 := unescape ((bytes text).map plusToSpace)

/-- The text that a form-encoded text stands for. -/
def decode (text : String) : Except Utf8Error String :=
  (Utf8.decode (decodedBytes text)).map String.ofList

end Intake.Text.Form
