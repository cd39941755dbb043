import Registrar.Text.Basic
/-!
# YAML text

The characters of a document and their places. Where a character stands decides much of what it
means, so a text is read as a list of characters that know their line and column.
-/
namespace Registrar.Yaml

inductive ReadError where
  | forbiddenCharacter (c : Char)
  | badIndentation
  | unexpectedText
  | unterminated
  | invalidEscape
  | badDirective
  | badTag
  | badAnchor
  | unknownAnchor (name : String)
  /-- A line that must be a key has no colon. -/
  | missingColon
  | noLists
  | severalDocuments
deriving DecidableEq, Repr

def ReadError.message : ReadError → String
  | forbiddenCharacter _ => "control characters are not allowed"
  | badIndentation => "bad indentation"
  | unexpectedText => "unexpected text"
  | unterminated => "unexpected end of document"
  | invalidEscape => "invalid escape in a quoted scalar"
  | badDirective => "invalid directive"
  | badTag => "invalid tag"
  | badAnchor => "invalid anchor"
  | unknownAnchor name => "unknown anchor " ++ name
  | missingColon => "could not find expected ':'"
  | noLists => "lists are not supported"
  | severalDocuments => "more than one document"

/-- The characters that a document may hold. -/
def isAllowed (c : Char) : Bool :=
  let n := c.toNat
  n == 9 || n == 10 || n == 13 || (0x20 ≤ n && n ≤ 0x7E) || n == 0x85 ||
    (0xA0 ≤ n && n ≤ 0xFFFD) || 0x10000 ≤ n

/-- Writes every form of line end but the two separators as a line feed. -/
def unifyBreaks : List Char → List Char
  | [] => []
  | '\r' :: '\n' :: s => '\n' :: unifyBreaks s
  | c :: s => (if c == '\r' || c == '\u0085' then '\n' else c) :: unifyBreaks s

def isBreak (c : Char) : Bool := c == '\n' || c == '\u2028' || c == '\u2029'

def isPad (c : Char) : Bool := c == ' ' || c == '\t'

/-- A character at its place. -/
structure Spot where
  char : Char
  /-- The number of characters before it. -/
  index : Nat
  line : Nat
  column : Nat
deriving DecidableEq, Repr

namespace Spot

/-- The characters of a text from a place on. -/
def placeFrom (index line column : Nat) : List Char → List Spot
  | [] => []
  | c :: s =>
    ⟨c, index, line, column⟩ ::
      if isBreak c then placeFrom (index + 1) (line + 1) 0 s
      else placeFrom (index + 1) line (column + 1) s

def isBreak (x : Spot) : Bool := Yaml.isBreak x.char

def isPad (x : Spot) : Bool := Yaml.isPad x.char

def isBlank (x : Spot) : Bool := x.isPad || x.isBreak

end Spot

/-- The text without places. -/
def charsOf (s : List Spot) : List Char := s.map Spot.char

/-- Whether a token may end here. -/
def atGap : List Spot → Bool
  | [] => true
  | x :: _ => x.isBlank

/-- Whether the text starts with a character. -/
def startsWith (c : Char) : List Spot → Bool
  | [] => false
  | x :: _ => x.char == c

/-- Whether a document marker stands here: three dashes or three dots alone at the start of a
line. -/
def atMarker (mark : Char) : List Spot → Bool
  | x :: y :: z :: s =>
    x.column == 0 && x.char == mark && y.char == mark && z.char == mark && atGap s
  | _ => false

def atAnyMarker (s : List Spot) : Bool := atMarker '-' s || atMarker '.' s

/-- Skips the rest of a line after a token: blanks and a comment, if nothing else stands there. The
line end is kept. -/
def restOfLine? (s : List Spot) : Option (List Spot) :=
  match s.dropWhile Spot.isPad with
  | [] => some []
  | x :: t =>
    if x.isBreak then some (x :: t)
    else if x.char == '#' then some (t.dropWhile fun y => !y.isBreak)
    else none

/-- Characters of names: ASCII letters, digits, dashes and underscores. -/
def isNameChar (c : Char) : Bool := c.isAlphanum || c == '_' || c == '-'

end Registrar.Yaml
