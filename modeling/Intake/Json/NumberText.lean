import Intake.Json.Reader

/-!
# Numbers written as strings

A number that a document cannot hold is written as a string: the name of infinity or of what is no
number, in any case, or a decimal beyond every finite number.  All may have a sign.
-/

namespace Intake.Json.NumberText

def names : List String := ["inf", "infinity", "nan"]

/-- A text without the sign in front of it. -/
def unsigned : List Char → List Char
  | '+' :: rest | '-' :: rest => rest
  | cs => cs

/-- The power of ten that the end of a decimal names: nothing, or `e` and a whole number. -/
def power? : List Char → Option Int
  | [] => some 0
  | mark :: rest =>
    let digits := unsigned rest
    if mark.toLower != 'e' || digits.isEmpty || !digits.all isDigit then none
    else
      let power : Int := digitsValue digits
      some (if rest.head? = some '-' then -power else power)

/-- The digits after a point, if there is a point, and what follows. -/
def fraction : List Char → List Char × List Char
  | '.' :: rest => (rest.takeWhile isDigit, rest.dropWhile isDigit)
  | cs => ([], cs)

/-- An unsigned decimal.  The digits on one side of the point may be missing. -/
def decimal? (cs : List Char) : Option Decimal :=
  let whole := cs.takeWhile isDigit
  let (fraction, rest) := fraction (cs.dropWhile isDigit)
  if whole.isEmpty && fraction.isEmpty then none
  else
    (power? rest).map fun power => ⟨digitsValue (whole ++ fraction), power - fraction.length⟩

/-- Whether a text is a number, but not a finite one. -/
def isUnbounded (text : String) : Bool :=
  let cs := unsigned text.toList
  names.contains (String.ofList (cs.map Char.toLower)) ||
    (decimal? cs).any fun decimal => (decimal.toBinary64? false).isNone

end Intake.Json.NumberText
