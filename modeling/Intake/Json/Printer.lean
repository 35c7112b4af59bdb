import Intake.Json.Basic

/-!
# Writing JSON

Documents are written without white space.  A string escapes the quote, the backslash and the
characters below U+0020, and writes every other character as it is.
-/

namespace Intake.Json

/-- A character inside a string. -/
def escapeChar (c : Char) : List Char :=
  match c with
  | '"' => ['\\', '"']
  | '\\' => ['\\', '\\']
  | '\x08' => ['\\', 'b']
  | '\x0c' => ['\\', 'f']
  | '\n' => ['\\', 'n']
  | '\r' => ['\\', 'r']
  | '\t' => ['\\', 't']
  | c =>
    if c.toNat < 0x20 then
      ['\\', 'u', '0', '0', Nat.digitChar (c.toNat / 16), Nat.digitChar (c.toNat % 16)]
    else [c]

def quoteChars (cs : List Char) : List Char :=
  '"' :: (cs.flatMap escapeChar ++ ['"'])

def intChars (n : Int) : List Char :=
  if n < 0 then '-' :: Nat.toDigits 10 n.natAbs else Nat.toDigits 10 n.natAbs

def numberChars : Number → List Char
  | .int n => intChars n
  | .float x => x.toChars

mutual

def renderChars : Json → List Char
  | .null => ['n', 'u', 'l', 'l']
  | .bool true => ['t', 'r', 'u', 'e']
  | .bool false => ['f', 'a', 'l', 's', 'e']
  | .num n => numberChars n
  | .str s => quoteChars s.toList
  | .arr xs => '[' :: ((renderItems xs).drop 1 ++ [']'])
  | .obj ms => '{' :: ((renderMembers ms).drop 1 ++ ['}'])

/-- The items, each after a comma. -/
def renderItems : List Json → List Char
  | [] => []
  | x :: xs => ',' :: (renderChars x ++ renderItems xs)

/-- The members, each after a comma. -/
def renderMembers : List (String × Json) → List Char
  | [] => []
  | (name, x) :: ms => ',' :: (quoteChars name.toList ++ ':' :: (renderChars x ++ renderMembers ms))

end

/-- The compact text of a document. -/
def render (document : Json) : String := String.ofList document.renderChars

end Intake.Json

/-- The text of a number alone. -/
def Intake.Number.render (n : Intake.Number) : String := String.ofList (Intake.Json.numberChars n)
