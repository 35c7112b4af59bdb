import Intake.Text.UpperTable

/-!
# Upper case

The full upper-case form of a text, in which one character may become several.
-/

namespace Intake.Text

namespace Upper

def Range.holds (range : Range) (n : Nat) : Bool :=
  range.first ≤ n && n ≤ range.last && (n - range.first) % range.step == 0

/-- The upper-case form of a character that becomes one character. -/
def single (n : Nat) : Nat :=
  match ranges.find? fun range => range.holds n with
  | some range => (n + range.shift).toNat
  | none => n

/-- The upper-case form of a character. -/
def ofChar (c : Char) : List Char :=
  match sequences.lookup c.toNat with
  | some ns => ns.map Char.ofNat
  | none => [Char.ofNat (single c.toNat)]

end Upper

/-- The upper-case form of a text. -/
def upper (text : String) : String := String.ofList (text.toList.flatMap Upper.ofChar)

end Intake.Text
