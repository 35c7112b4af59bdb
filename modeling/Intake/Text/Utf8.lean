/-!
# UTF-8

Bytes are decoded from left to right.  Each lead byte fixes how many bytes follow it and which
values the first of them may have; the error is the first sequence that does not keep to that.
-/

namespace Intake.Text

/-- Why bytes are not UTF-8. -/
inductive Utf8Error where
  /-- So many bytes from an index on cannot start or continue a character. -/
  | invalid (count index : Nat)
  /-- The bytes end inside the character that starts at an index. -/
  | incomplete (index : Nat)
  deriving DecidableEq, Repr, Inhabited

def Utf8Error.message : Utf8Error → String
  | .invalid count index =>
    "invalid utf-8 sequence of " ++ toString count ++ " bytes from index " ++ toString index
  | .incomplete index => "incomplete utf-8 byte sequence from index " ++ toString index

namespace Utf8

/-- A character of which some bytes have been read. -/
structure Partial where
  start : Nat
  /-- How many bytes have been read and how many are still to come. -/
  seen : Nat
  left : Nat
  /-- The values the next byte may have. -/
  least : UInt8
  greatest : UInt8
  value : Nat

/-- What a byte that starts a character announces. -/
inductive Lead where
  | char (c : Char)
  | longer (character : Partial)
  | invalid

def lead (index : Nat) (b : UInt8) : Lead :=
  let first (left : Nat) (least greatest : UInt8) (value : Nat) : Lead :=
    .longer ⟨index, 1, left, least, greatest, value⟩
  if b < 0x80 then .char (Char.ofNat b.toNat)
  else if b < 0xC2 then .invalid
  else if b < 0xE0 then first 1 0x80 0xBF (b.toNat - 0xC0)
  else if b < 0xF0 then
    first 2 (if b = 0xE0 then 0xA0 else 0x80) (if b = 0xED then 0x9F else 0xBF) (b.toNat - 0xE0)
  else if b < 0xF5 then
    first 3 (if b = 0xF0 then 0x90 else 0x80) (if b = 0xF4 then 0x8F else 0xBF) (b.toNat - 0xF0)
  else .invalid

/-- The characters of the bytes from an index on, inside a character or not. -/
def decodeFrom : Nat → Option Partial → List UInt8 → Except Utf8Error (List Char)
  | _, none, [] => .ok []
  | _, some p, [] => .error (.incomplete p.start)
  | index, none, b :: rest =>
    match lead index b with
    | .char c => (decodeFrom (index + 1) none rest).map (c :: ·)
    | .longer p => decodeFrom (index + 1) (some p) rest
    | .invalid => .error (.invalid 1 index)
  | index, some p, b :: rest =>
    if b < p.least ∨ p.greatest < b then .error (.invalid p.seen p.start)
    else
      let value := p.value * 64 + (b.toNat - 0x80)
      if p.left = 1 then
        (decodeFrom (index + 1) none rest).map (Char.ofNat value :: ·)
      else
        decodeFrom (index + 1) (some ⟨p.start, p.seen + 1, p.left - 1, 0x80, 0xBF, value⟩) rest

/-- The characters of the bytes. -/
def decode (bytes : List UInt8) : Except Utf8Error (List Char) := decodeFrom 0 none bytes

/-- The bytes of the characters. -/
def encode (cs : List Char) : List UInt8 := cs.flatMap String.utf8EncodeChar

end Utf8

/-- The bytes of a text. -/
def bytes (text : String) : List UInt8 := Utf8.encode text.toList

end Intake.Text
