/-!
# Pieces of markup

The smallest things that a markup document is made of: names, quoted values, comments and
instructions.  Every reader here takes its piece off the start of a text and gives what is left;
it gives nothing when the piece is not there or is not well formed.
-/

namespace Intake.Markup

/-- Takes a piece off the start of a text. -/
abbrev Skip := List Char → Option (List Char)

/-- Reads a piece off the start of a text. -/
abbrev Read (α : Type) := List Char → Option (α × List Char)

/-! ### Characters -/

/-- Whether a document may hold a character.  There are no controls but the tab and the two line
ends, and no noncharacters at the end of the first plane. -/
def isChar (c : Char) : Bool :=
  let n := c.toNat
  n == 9 || n == 10 || n == 13 || (32 ≤ n && n != 0xFFFE && n != 0xFFFF)

def isSpace (c : Char) : Bool := c == ' ' || c == '\t' || c == '\n' || c == '\r'

/-- The characters beyond ASCII with which a name may start. -/
def nameStartRanges : List (Nat × Nat) :=
  [(0xC0, 0xD6), (0xD8, 0xF6), (0xF8, 0x2FF), (0x370, 0x37D), (0x37F, 0x1FFF), (0x200C, 0x200D),
   (0x2070, 0x218F), (0x2C00, 0x2FEF), (0x3001, 0xD7FF), (0xF900, 0xFDCF), (0xFDF0, 0xFFFD),
   (0x10000, 0xEFFFF)]

/-- The further characters beyond ASCII that a name may have. -/
def nameRanges : List (Nat × Nat) := [(0xB7, 0xB7), (0x300, 0x36F), (0x203F, 0x2040)]

def isWithin (ranges : List (Nat × Nat)) (c : Char) : Bool :=
  ranges.any fun (first, last) => first ≤ c.toNat && c.toNat ≤ last

def isNameStart (c : Char) : Bool :=
  c.isAlpha || c == ':' || c == '_' || isWithin nameStartRanges c

def isNameChar (c : Char) : Bool :=
  isNameStart c || c.isDigit || c == '-' || c == '.' || isWithin nameRanges c

/-! ### Fixed texts and blanks -/

def startsWith (text : String) (cs : List Char) : Bool := text.toList.isPrefixOf cs

def skipText (text : String) : Skip := fun cs =>
  if startsWith text cs then some (cs.drop text.length) else none

def skipSpaces (cs : List Char) : List Char := cs.dropWhile isSpace

def startsWithSpace (cs : List Char) : Bool := cs.head?.any isSpace

/-- At least one blank. -/
def skipSomeSpaces : Skip := fun cs => if startsWithSpace cs then some (skipSpaces cs) else none

/-- An equals sign with blanks around it. -/
def skipEquals : Skip := fun cs => (skipText "=" (skipSpaces cs)).map skipSpaces

/-- The characters before a closing text; what is left starts after that text. -/
def readUntil (close : String) : Read (List Char)
  | [] => none
  | c :: rest =>
    if startsWith close (c :: rest) then some ([], (c :: rest).drop close.length)
    else if isChar c then (readUntil close rest).map fun (body, rest) => (c :: body, rest)
    else none

/-! ### Names -/

def readName : Read (List Char)
  | [] => none
  | c :: rest =>
    if isNameStart c then some (c :: rest.takeWhile isNameChar, rest.dropWhile isNameChar)
    else none

/-- A name that may stand in a name space; only its own part is kept. -/
def readOwnName : Read (List Char) := fun cs =>
  let name := cs.takeWhile isNameChar
  let space := name.takeWhile (· != ':')
  let starts (part : List Char) := part.head?.any isNameStart && !part.contains ':'
  let own := name.drop (space.length + 1)
  let rest := cs.drop name.length
  if space.length = name.length then if starts name then some (name, rest) else none
  else if starts own && (space.isEmpty || starts space) then some (own, rest)
  else none

/-! ### Values -/

/-- A text in quotes of either kind, which may not hold some characters. -/
def readQuoted (isAllowed : Char → Bool) : Read (List Char)
  | [] => none
  | quote :: rest =>
    if quote = '"' ∨ quote = '\'' then
      let text := rest.takeWhile fun c => c != quote && isAllowed c
      match rest.drop text.length with
      | [] => none
      | c :: rest => if c = quote then some (text, rest) else none
    else none

/-- The number that digits in a base stand for; a plus sign may stand in front. -/
def numeral? (base : Nat) (digits : List Char) : Option Nat :=
  let digits := match digits with
    | '+' :: rest => rest
    | cs => cs
  let value (c : Char) : Nat :=
    if c.isDigit then c.toNat - '0'.toNat
    else if c.isAlpha then c.toLower.toNat - 'a'.toNat + 10
    else base
  if digits.isEmpty || digits.any fun c => base ≤ value c then none
  else some (digits.foldl (fun n c => n * base + value c) 0)

/-- The names of escaped characters. -/
def escapeNames : List String := ["lt", "gt", "amp", "quot", "apos"]

/-- Whether the text between `&` and `;` stands for a character. -/
def isEscape (name : List Char) : Bool :=
  let code? := match name with
    | '#' :: 'x' :: digits => numeral? 16 digits
    | '#' :: digits => numeral? 10 digits
    | _ => none
  escapeNames.contains (String.ofList name) || code?.any Nat.isValidChar

/-- Whether every `&` starts the escape of a character. -/
def isEscaped : List Char → Bool
  | [] => true
  | '&' :: rest =>
    let name := rest.takeWhile fun c => c != ';' && c != '&'
    (rest.drop name.length).head? == some ';' && isEscape name && isEscaped rest
  | _ :: rest => isEscaped rest

/-- The value of an attribute. -/
def skipValue : Skip := fun cs => do
  let (text, rest) ← readQuoted (· != '<') cs
  if text.all isChar && isEscaped text then some rest else none

/-! ### Asides -/

/-- A comment, which holds no two dashes in a row and does not end with one. -/
def skipComment : Skip := fun cs => do
  let (body, rest) ← readUntil "-->" (← skipText "<!--" cs)
  if body.getLast? = some '-' ∨ (body.zip body.tail).contains ('-', '-') then none else some rest

/-- An instruction to a program. -/
def skipInstruction : Skip := fun cs => do
  let (_, rest) ← readName (← skipText "<?" cs)
  let (_, rest) ← readUntil "?>" (skipSpaces rest)
  return rest

end Intake.Markup
