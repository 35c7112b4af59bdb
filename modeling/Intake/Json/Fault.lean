/-!
# Faults in JSON text

A fault names its cause and the place where reading stopped.  While reading, the place is the rest
of the text together with the number of its bytes that had been looked at; `locate` turns it into
a line and a column, both counted in bytes of the whole text.
-/

namespace Intake.Json

inductive Cause where
  | endInValue
  | endInString
  | endInList
  | endInObject
  | expectedValue
  | expectedLiteral
  | expectedColon
  | expectedListEnd
  | expectedObjectEnd
  | keyNotString
  | trailingComma
  | trailingCharacters
  | invalidNumber
  | numberOutOfRange
  | invalidEscape
  | controlCharacter
  | loneSurrogate
  | unfinishedSurrogate
  | tooDeep
  deriving DecidableEq, Repr, Inhabited

def Cause.message : Cause → String
  | .endInValue => "EOF while parsing a value"
  | .endInString => "EOF while parsing a string"
  | .endInList => "EOF while parsing a list"
  | .endInObject => "EOF while parsing an object"
  | .expectedValue => "expected value"
  | .expectedLiteral => "expected ident"
  | .expectedColon => "expected `:`"
  | .expectedListEnd => "expected `,` or `]`"
  | .expectedObjectEnd => "expected `,` or `\x7d`"
  | .keyNotString => "key must be a string"
  | .trailingComma => "trailing comma"
  | .trailingCharacters => "trailing characters"
  | .invalidNumber => "invalid number"
  | .numberOutOfRange => "number out of range"
  | .invalidEscape => "invalid escape"
  | .controlCharacter => "control character (\\u0000-\\u001F) found while parsing a string"
  | .loneSurrogate => "lone leading surrogate in hex escape"
  | .unfinishedSurrogate => "unexpected end of hex escape"
  | .tooDeep => "recursion limit exceeded"

/-- Where reading stopped: `seen` bytes into `rest`. -/
structure Place where
  rest : List Char
  seen : Nat
  deriving DecidableEq, Inhabited

structure Fault where
  cause : Cause
  place : Place
  deriving DecidableEq, Inhabited

/-- A fault at the first character of `rest`. -/
def Fault.here (cause : Cause) (rest : List Char) : Fault := ⟨cause, rest, 1⟩

/-- A fault between what was read and `rest`. -/
def Fault.before (cause : Cause) (rest : List Char) : Fault := ⟨cause, rest, 0⟩

/-- A fault at the end of the text. -/
def Fault.atEnd (cause : Cause) : Fault := ⟨cause, [], 0⟩

def byteSize (cs : List Char) : Nat := cs.foldr (fun c count => c.utf8Size + count) 0

/-- A line and a column; a column is the number of bytes of its line. -/
structure Position where
  line : Nat
  column : Nat
  deriving DecidableEq, Repr, Inhabited

/-- The position after the first `count` bytes of a text. -/
def positionAfter : Nat → List Char → Position → Position
  | _, [], position => position
  | count, c :: rest, position =>
    if count = 0 then position
    else if c = '\n' then positionAfter (count - 1) rest ⟨position.line + 1, 0⟩
    else
      positionAfter (count - c.utf8Size) rest
        ⟨position.line, position.column + min count c.utf8Size⟩

def Place.locate (place : Place) (text : List Char) : Position :=
  let total := byteSize text
  positionAfter (min total (total - byteSize place.rest + place.seen)) text ⟨1, 0⟩

def Position.suffix (position : Position) : String :=
  " at line " ++ toString position.line ++ " column " ++ toString position.column

/-- A fault with its position in the text that has it. -/
structure SyntaxError where
  cause : Cause
  position : Position
  deriving DecidableEq, Repr, Inhabited

def Fault.locate (fault : Fault) (text : List Char) : SyntaxError :=
  ⟨fault.cause, fault.place.locate text⟩

def SyntaxError.message (error : SyntaxError) : String :=
  error.cause.message ++ error.position.suffix

end Intake.Json
