import Intake.Decimal.Scaled
import Intake.Json.Basic
import Intake.Json.Fault
import Intake.Text.Hex

/-!
# Reading JSON

Each reader takes the text that is left and gives what it read and what is left after it.  The
items of arrays and the members of objects are read by one combinator, `sequence`, so nesting is
recursion on the number of brackets that may still be opened.
-/

namespace Intake.Json

def isSpace (c : Char) : Bool :=
  c == ' ' || c == '\n' || c == '\t' || c == '\r'

def skipSpace (cs : List Char) : List Char := cs.dropWhile isSpace

/-! ### Strings -/

/-- The character after a backslash, for the escapes of one letter. -/
def escaped? : Char → Option Char
  | '"' => some '"'
  | '\\' => some '\\'
  | '/' => some '/'
  | 'b' => some '\x08'
  | 'f' => some '\x0c'
  | 'n' => some '\n'
  | 'r' => some '\r'
  | 't' => some '\t'
  | _ => none

def isHighSurrogate (unit : Nat) : Bool := 0xD800 ≤ unit && unit < 0xDC00

def isLowSurrogate (unit : Nat) : Bool := 0xDC00 ≤ unit && unit < 0xE000

def joinSurrogates (high low : Nat) : Char :=
  Char.ofNat (0x10000 + (high - 0xD800) * 0x400 + (low - 0xDC00))

/-- What the string reader is in the middle of. -/
inductive InString where
  | plain
  | escape
  /-- A `\u` escape: the high surrogate before it, its value so far unless a digit was bad, and
  how many of its four bytes are still to come. -/
  | unit (high : Option Nat) (value : Option Nat) (left : Nat)
  /-- A high surrogate has been read and a backslash must follow. -/
  | afterHigh (high : Nat)
  /-- The backslash has been read and `u` must follow. -/
  | afterHighEscape (high : Nat)
  deriving DecidableEq

/-- What a finished `\u` escape stands for: a character, or the first half of one. -/
inductive UnitMeaning where
  | char (c : Char)
  | high (unit : Nat)
  | lone

def unitMeaning (high : Option Nat) (unit : Nat) : UnitMeaning :=
  match high with
  | none =>
    if isHighSurrogate unit then .high unit
    else if isLowSurrogate unit then .lone
    else .char (Char.ofNat unit)
  | some first => if isLowSurrogate unit then .char (joinSurrogates first unit) else .lone

/-- The value of a `\u` escape after one more digit. -/
def pushHex (value : Option Nat) (c : Char) : Option Nat :=
  match value, Text.Hex.digit? c with
  | some v, some d => some (v * 16 + d)
  | _, _ => none

/-- The characters up to the closing quote. -/
def stringBody : InString → List Char → Except Fault (List Char × List Char)
  | _, [] => .error (.atEnd .endInString)
  | .plain, c :: rest =>
    if c = '"' then .ok ([], rest)
    else if c = '\\' then stringBody .escape rest
    else if c.toNat < 0x20 then .error (.here .controlCharacter (c :: rest))
    else do
      let (cs, rest) ← stringBody .plain rest
      return (c :: cs, rest)
  | .escape, c :: rest =>
    if c = 'u' then stringBody (.unit none (some 0) 4) rest
    else
      match escaped? c with
      | some e => do
        let (cs, rest) ← stringBody .plain rest
        return (e :: cs, rest)
      | none => .error (.here .invalidEscape (c :: rest))
  | .unit high value left, c :: rest =>
    if c.utf8Size < left then stringBody (.unit high (pushHex value c) (left - c.utf8Size)) rest
    else
      match pushHex value c with
      | none => .error ⟨.invalidEscape, c :: rest, left⟩
      | some unit =>
        match unitMeaning high unit with
        | .char e => do
          let (cs, rest) ← stringBody .plain rest
          return (e :: cs, rest)
        | .high unit => stringBody (.afterHigh unit) rest
        | .lone => .error (.before .loneSurrogate rest)
  | .afterHigh high, c :: rest =>
    if c = '\\' then stringBody (.afterHighEscape high) rest
    else .error (.here .unfinishedSurrogate (c :: rest))
  | .afterHighEscape high, c :: rest =>
    if c = 'u' then stringBody (.unit (some high) (some 0) 4) rest
    else .error (.here .unfinishedSurrogate (c :: rest))

/-- A string whose opening quote has been read. -/
def stringRest (cs : List Char) : Except Fault (String × List Char) := do
  let (chars, rest) ← stringBody .plain cs
  return (String.ofList chars, rest)

/-! ### Numbers -/

def isDigit (c : Char) : Bool := '0' ≤ c && c ≤ '9'

def digitValue (c : Char) : Nat := c.toNat - '0'.toNat

def digitsValue (digits : List Char) : Nat :=
  digits.foldl (fun value c => value * 10 + digitValue c) 0

/-- At least one digit, or a fault at the character in its place. -/
def someDigits (cs : List Char) : Except Fault (List Char × List Char) :=
  match cs.takeWhile isDigit, cs.dropWhile isDigit with
  | [], [] => .error (.atEnd .endInValue)
  | [], rest => .error (.here .invalidNumber rest)
  | digits, rest => .ok (digits, rest)

/-- The digits before the point: no zero before another digit. -/
def wholeDigits (cs : List Char) : Except Fault (List Char × List Char) := do
  let (digits, rest) ← someDigits cs
  match digits with
  | '0' :: next :: more => .error (.here .invalidNumber (next :: more ++ rest))
  | _ => .ok (digits, rest)

/-- The digits after a point; none without a point. -/
def fractionDigits : List Char → Except Fault (Option (List Char) × List Char)
  | '.' :: rest => do
    let (digits, rest) ← someDigits rest
    return (some digits, rest)
  | cs => .ok (none, cs)

/-- The greatest power of ten an exponent may name. -/
def exponentLimit : Nat := 2147483647

/-- Whether the digits name a power beyond the limit, and after how many of them that is sure. -/
def digitsToOverflow (digits : List Char) : Option Nat :=
  (List.range (digits.length + 1)).find? fun count =>
    exponentLimit < digitsValue (digits.take count)

/-- The exponent's sign and digits. -/
structure Exponent where
  negative : Bool
  digits : List Char

/-- The exponent after `e`; none without one. -/
def exponentPart : List Char → Except Fault (Option Exponent × List Char)
  | 'e' :: rest | 'E' :: rest => do
    let (negative, rest) := match rest with
      | '-' :: rest => (true, rest)
      | '+' :: rest => (false, rest)
      | rest => (false, rest)
    let (digits, rest) ← someDigits rest
    return (some ⟨negative, digits⟩, rest)
  | cs => .ok (none, cs)

/-- The floating-point number with these digits before and after the point. -/
def floatOf? (negative : Bool) (whole fraction : List Char) (power : Int) : Option Number :=
  let decimal := Decimal.ofDigits (whole.map digitValue) (fraction.map digitValue) power
  (decimal.scaled? negative).map .float

/-- A whole number is one of 64 bits, signed or not; outside that range it is read as a
floating-point number, and so is minus zero. -/
def wholeNumber? (negative : Bool) (digits : List Char) : Option Number :=
  let n := digitsValue digits
  if negative && 0 < n && n ≤ UInt64.size / 2 then some (.int (-(n : Int)))
  else if !negative && n < UInt64.size then some (.int n)
  else floatOf? negative digits [] 0

/-- A number whose sign has been read. -/
def unsignedNumber (negative : Bool) (cs : List Char) : Except Fault (Number × List Char) := do
  let (whole, rest) ← wholeDigits cs
  let (fraction, rest) ← fractionDigits rest
  let (exponent, after) ← exponentPart rest
  let orOutOfRange (number : Option Number) : Except Fault (Number × List Char) :=
    match number with
    | some n => .ok (n, after)
    | none => .error (.before .numberOutOfRange after)
  match fraction, exponent with
  | none, none => orOutOfRange (wholeNumber? negative whole)
  | _, none => orOutOfRange (floatOf? negative whole (fraction.getD []) 0)
  | _, some exponent =>
    match digitsToOverflow exponent.digits with
    | none =>
      let power : Int := digitsValue exponent.digits
      orOutOfRange <|
        floatOf? negative whole (fraction.getD []) (if exponent.negative then -power else power)
    | some count =>
      if exponent.negative || digitsValue (whole ++ fraction.getD []) = 0 then
        .ok (.float (.zero negative), after)
      else .error (.before .numberOutOfRange (exponent.digits.drop count ++ after))

def number : List Char → Except Fault (Number × List Char)
  | '-' :: rest => unsignedNumber true rest
  | cs => unsignedNumber false cs

/-! ### Values -/

/-- The letters of a literal after its first one. -/
def literal (value : Json) : List Char → List Char → Except Fault (Json × List Char)
  | [], rest => .ok (value, rest)
  | _ :: _, [] => .error (.atEnd .endInValue)
  | expected :: letters, c :: rest =>
    if c = expected then literal value letters rest
    else .error (.here .expectedLiteral (c :: rest))

/-- A value that is neither an array nor an object. -/
def scalar : List Char → Except Fault (Json × List Char)
  | [] => .error (.atEnd .endInValue)
  | 'n' :: rest => literal .null ['u', 'l', 'l'] rest
  | 't' :: rest => literal (.bool true) ['r', 'u', 'e'] rest
  | 'f' :: rest => literal (.bool false) ['a', 'l', 's', 'e'] rest
  | '"' :: rest => do
    let (text, rest) ← stringRest rest
    return (.str text, rest)
  | c :: rest =>
    if c = '-' || isDigit c then do
      let (n, rest) ← number (c :: rest)
      return (.num n, rest)
    else .error (.here .expectedValue (c :: rest))

/-- How a kind of container is closed. -/
structure Bracket where
  close : Char
  unclosed : Cause
  expectedEnd : Cause

def listBracket : Bracket := ⟨']', .endInList, .expectedListEnd⟩

def objectBracket : Bracket := ⟨'}', .endInObject, .expectedObjectEnd⟩

/-- The items after the first one.  The text gets shorter with every item, so its length bounds
their number. -/
def moreItems {α : Type} (bracket : Bracket) (item : List Char → Except Fault (α × List Char)) :
    Nat → List Char → Except Fault (List α × List Char)
  | 0, cs => .error (.before bracket.unclosed cs)
  | bound + 1, cs =>
    match skipSpace cs with
    | [] => .error (.atEnd bracket.unclosed)
    | c :: rest =>
      if c = bracket.close then .ok ([], rest)
      else if c = ',' then
        match skipSpace rest with
        | [] => .error (.atEnd .endInValue)
        | c :: rest =>
          if c = bracket.close then .error (.here .trailingComma (c :: rest))
          else do
            let (first, rest) ← item (c :: rest)
            let (items, rest) ← moreItems bracket item bound rest
            return (first :: items, rest)
      else .error (.here bracket.expectedEnd (c :: rest))

/-- The items of a container whose opening bracket has been read. -/
def sequence {α : Type} (bracket : Bracket) (item : List Char → Except Fault (α × List Char))
    (cs : List Char) : Except Fault (List α × List Char) :=
  match skipSpace cs with
  | [] => .error (.atEnd bracket.unclosed)
  | c :: rest =>
    if c = bracket.close then .ok ([], rest)
    else do
      let (first, rest) ← item (c :: rest)
      let (items, rest) ← moreItems bracket item (rest.length + 1) rest
      return (first :: items, rest)

/-- The name of a member. -/
def memberName : List Char → Except Fault (String × List Char)
  | '"' :: rest => stringRest rest
  | cs => .error (.here .keyNotString cs)

/-- The colon between the name and the value of a member. -/
def colon (cs : List Char) : Except Fault (List Char) :=
  match skipSpace cs with
  | [] => .error (.atEnd .endInObject)
  | ':' :: rest => .ok rest
  | rest => .error (.here .expectedColon rest)

def member (value : List Char → Except Fault (Json × List Char)) (cs : List Char) :
    Except Fault (Member × List Char) := do
  let (name, rest) ← memberName cs
  let rest ← colon rest
  let (v, rest) ← value rest
  return ((name, v), rest)

/-- A value after white space, with so many brackets left to open. -/
def value : Nat → List Char → Except Fault (Json × List Char)
  | 0, cs =>
    match skipSpace cs with
    | '[' :: rest => .error (.here .tooDeep ('[' :: rest))
    | '{' :: rest => .error (.here .tooDeep ('{' :: rest))
    | rest => scalar rest
  | nesting + 1, cs =>
    match skipSpace cs with
    | '[' :: rest => do
      let (items, rest) ← sequence listBracket (value nesting) rest
      return (.arr items, rest)
    | '{' :: rest => do
      let (members, rest) ← sequence objectBracket (member (value nesting)) rest
      return (.obj members, rest)
    | rest => scalar rest

/-- How deep arrays and objects may lie inside one another. -/
def maxDepth : Nat := 127

/-- One value and nothing but white space around it. -/
def document (cs : List Char) : Except Fault Json := do
  let (v, rest) ← value maxDepth cs
  match skipSpace rest with
  | [] => .ok v
  | rest => .error (.here .trailingCharacters rest)

/-- The document in a text, members in their order. -/
def read (text : String) : Except SyntaxError Json :=
  (document text.toList).mapError (·.locate text.toList)

/-- The value in a text. -/
def parse (text : String) : Except SyntaxError Json :=
  (read text).map canonical

end Intake.Json
