import Intake.Markup.Piece

/-!
# The root of a markup document

Before the root element a document may have a declaration, comments, instructions and one document
type, which may define names in a subset of its own.  `rootName?` reads the document up to the end
of the root's start tag; what follows may be anything.
-/

namespace Intake.Markup

/-! ### The declaration -/

/-- How the declaration starts.  Nothing that starts so may stand in any other place. -/
def declarationStart : String := "<?xml "

/-- Blanks, which may be missing only at the end of the declaration. -/
def skipGap : Skip := fun cs =>
  if startsWithSpace cs || startsWith "?>" cs || cs.isEmpty then some (skipSpaces cs) else none

/-- A part of the declaration that may be missing. -/
def skipPart (name : String) (isValue : List Char → Bool) : Skip := fun cs =>
  match skipText name cs with
  | none => some cs
  | some rest => do
    let (value, rest) ← readQuoted (fun _ => true) (← skipEquals rest)
    if isValue value then some rest else none

def isVersion (value : List Char) : Bool :=
  startsWith "1." value && (value.drop 2).all Char.isDigit

def isEncoding (value : List Char) : Bool :=
  value.all fun c => c.isAlphanum || c == '.' || c == '-' || c == '_'

def isAnswer (value : List Char) : Bool := value == "yes".toList || value == "no".toList

def skipDeclaration : Skip := fun cs => do
  let rest := skipSpaces (← skipText declarationStart cs)
  if !startsWith "version" rest then none
  else
    let rest ← skipGap (← skipPart "version" isVersion rest)
    let afterEncoding ← skipPart "encoding" isEncoding rest
    let rest ← if startsWith "encoding" rest then skipGap afterEncoding else some rest
    let rest ← skipPart "standalone" isAnswer rest
    skipText "?>" (skipSpaces rest)

/-! ### The document type -/

/-- Any text in quotes. -/
def skipLiteral : Skip := fun cs => (readQuoted (fun _ => true) cs).map (·.2)

/-- Where a definition is to be found outside of the document. -/
def skipOutside : Skip := fun cs =>
  match skipText "SYSTEM" cs, skipText "PUBLIC" cs with
  | some rest, _ => (skipSomeSpaces rest).bind skipLiteral
  | _, some rest => do
    let rest ← skipLiteral (← skipSomeSpaces rest)
    skipLiteral (← skipSomeSpaces rest)
  | none, none => none

/-- Whether a text may go on with a place outside of the document. -/
def startsOutside (cs : List Char) : Bool := startsWith "SYSTEM" cs || startsWith "PUBLIC" cs

/-- The start of a document type, up to its subset or its end. -/
def skipTypeStart : Skip := fun cs => do
  let (_, rest) ← readName (← skipSomeSpaces (← skipText "<!DOCTYPE" cs))
  let rest := skipSpaces rest
  return skipSpaces (← if startsOutside rest then skipOutside rest else some rest)

/-- What a name is defined as: a text, or a place outside and perhaps the kind of what is there. -/
def skipDefinition (isParameter : Bool) : Skip := fun cs =>
  if startsOutside cs then do
    let rest ← skipOutside cs
    if isParameter then return rest
    else
      match skipText "NDATA" (skipSpaces rest) with
      | none => return skipSpaces rest
      | some rest => return (← readName (← skipSomeSpaces rest)).2
  else skipLiteral cs

/-- The definition of a name. -/
def skipEntity : Skip := fun cs => do
  let rest ← skipSomeSpaces (← skipText "<!ENTITY" cs)
  let parameter := skipText "%" rest
  let rest ← match parameter with
    | some rest => skipSomeSpaces rest
    | none => some rest
  let (_, rest) ← readName rest
  let rest ← skipDefinition parameter.isSome (← skipSomeSpaces rest)
  skipText ">" (skipSpaces rest)

/-- Whether a text goes on with a definition that is passed over unread. -/
def startsUnread (cs : List Char) : Bool :=
  startsWith "<!ELEMENT" cs || startsWith "<!ATTLIST" cs || startsWith "<!NOTATION" cs

/-! ### The root -/

/-- Where in front of the root element a reader is. -/
inductive Place where
  | beforeType
  | inSubset
  | afterType
  deriving DecidableEq

/-- Skips one thing in front of the root element. -/
def skipStep (place : Place) (cs : List Char) : Option (Place × List Char) :=
  if startsWith "<!--" cs then (skipComment cs).map (place, ·)
  else if startsWith declarationStart cs then none
  else if startsWith "<?" cs then (skipInstruction cs).map (place, ·)
  else if startsWithSpace cs then some (place, skipSpaces cs)
  else
    match place with
    | .beforeType => do
      match ← skipTypeStart cs with
      | '[' :: rest => some (.inSubset, rest)
      | '>' :: rest => some (.afterType, rest)
      | _ => none
    | .inSubset =>
      if startsUnread cs then (skipText ">" (cs.dropWhile (· != '>'))).map (place, ·)
      else if startsWith "<!ENTITY" cs then (skipEntity cs).map (place, ·)
      else do
        let rest ← skipText ">" (skipSpaces (← skipText "]" cs))
        return (.afterType, rest)
    | .afterType => none

/-- Whether a start tag ends after attributes, of which there are at most so many. -/
def tagEnds : Nat → List Char → Bool
  | 0, _ => false
  | bound + 1, cs =>
    let rest := skipSpaces cs
    if startsWith ">" rest || startsWith "/>" rest then true
    else
      let next := do
        let (_, rest) ← readOwnName (← skipSomeSpaces cs)
        skipValue (← skipEquals rest)
      match next with
      | some rest => tagEnds bound rest
      | none => false

/-- The name in a start tag, without its name space. -/
def tagName? (cs : List Char) : Option String := do
  let (name, rest) ← readOwnName (← skipText "<" cs)
  if tagEnds (rest.length + 1) rest then some (String.ofList name) else none

/-- Whether a text goes on with a start tag. -/
def startsTag (cs : List Char) : Bool :=
  startsWith "<" cs && !startsWith "<!" cs && !startsWith "<?" cs

/-- The root's name after at most so many things in front of it. -/
def rootAfter : Nat → Place → List Char → Option String
  | 0, _, _ => none
  | bound + 1, place, cs =>
    if startsTag cs && place != .inSubset then tagName? cs
    else
      match skipStep place cs with
      | some (place, rest) => rootAfter bound place rest
      | none => none

/-- The name of the root element.  Everything in front of it takes up at least one character, so the
length of the text bounds how much that can be. -/
def rootName? (document : List Char) : Option String :=
  let cs := match document with
    | '\uFEFF' :: rest => rest
    | cs => cs
  let afterDeclaration :=
    if startsWith declarationStart cs then skipDeclaration cs else some cs
  afterDeclaration.bind fun rest => rootAfter (rest.length + 1) .beforeType rest

end Intake.Markup
