import Registrar.Source.Literal
import Registrar.Source.Position
import Registrar.Source.Terminal
import Registrar.Text.Identifier
/-!
# Tokens of Go source text

Which token stands at a place depends on the terminals that the grammar admits there: the longest
admissible one is read, and a word is a keyword only where that keyword is admissible. Blanks before
a token are skipped; a line end is a blank unless it is admissible. Inside a quoted string nothing
is skipped.
-/
namespace Registrar

/-- A place in a text, with the text from there on. -/
structure Cursor where
  rest : List Char
  position : Position := {}
deriving DecidableEq, Repr

namespace Cursor

def start (text : List Char) : Cursor := { rest := text }

/-- The place after `n` more characters. -/
def advance : Nat → Cursor → Cursor
  | n + 1, ⟨c :: s, p⟩ => advance n ⟨s, p.next c⟩
  | _, c => c

def isSpace (c : Char) : Bool :=
  c == ' ' || c == '\t' || c == '\r' || c == '\x0b' || c == '\x0c'

/-- Skips blanks; line ends among them only where they have no meaning. -/
def skipFrom (lineEndsMatter : Bool) (p : Position) : List Char → Cursor
  | c :: s =>
    if isSpace c || (c == '\n' && !lineEndsMatter) then skipFrom lineEndsMatter (p.next c) s
    else ⟨c :: s, p⟩
  | [] => ⟨[], p⟩

def skipBlanks (lineEndsMatter : Bool) (c : Cursor) : Cursor :=
  skipFrom lineEndsMatter c.position c.rest

/-- Whether only blanks are left. -/
def isAtEnd (c : Cursor) : Bool := (c.skipBlanks false).rest.isEmpty

end Cursor

structure Token where
  terminal : Terminal
  start : Position
  /-- The place after the token. -/
  stop : Cursor
deriving Repr

namespace Token

/-- The token of a terminal that takes the next `n` characters. -/
def take (t : Terminal) (n : Nat) (c : Cursor) : Token := ⟨t, c.position, c.advance n⟩

/-- The longest candidate that is admissible and not empty; of equally long ones the first. -/
def longest (admissible : TerminalSet) (candidates : List (Terminal × Nat)) :
    Option (Terminal × Nat) :=
  candidates.foldl
    (fun best c =>
      if c.2 > (best.map (·.2)).getD 0 && admissible.has c.1 then some c else best)
    none

/-- The marks with their characters. -/
def markTable : List (List Char × Terminal) :=
  Terminal.marks.map fun m => (m.toList, .mark m)

/-- What can start at a text other than a word, with the lengths. -/
def candidates (s : List Char) : List (Terminal × Nat) :=
  [(.comment, Literal.comment s), (.int, Literal.int s), (.float, Literal.float s),
   (.imaginary, Literal.imaginary s), (.rune, Literal.rune s),
   (.rawString, Literal.rawString s),
   (.openingQuote, if s.head? = some '"' then 1 else 0),
   (.nul, if s.head? = some '\x00' then 1 else 0)] ++
    (markTable.filter fun m => m.1.isPrefixOf s).map fun m => (m.2, m.1.length)

/-- The terminal of a word. -/
def ofWord (admissible : TerminalSet) (w : String) : Terminal :=
  if Terminal.keywords.contains w && admissible.has (.keyword w) then .keyword w else .identifier

/-- The part of a quoted string at a place. -/
def quotePart? (admissible : TerminalSet) (c : Cursor) : Option Token :=
  let part (t : Terminal) (n : Nat) : Option Token :=
    if n > 0 && admissible.has t then some (take t n c) else none
  part .content (Literal.content c.rest) <|> part .escape (Literal.escape c.rest) <|>
    part .closingQuote (if c.rest.head? = some '"' then 1 else 0)

/-- The token at a place, blanks before it skipped. -/
def scan? (admissible : TerminalSet) (c : Cursor) : Option Token :=
  (if admissible.has .closingQuote then quotePart? admissible c else none) <|>
    let c := c.skipBlanks (admissible.has .lineEnd)
    match c.rest with
    | [] => if admissible.has .endOfText then some (take .endOfText 0 c) else none
    | x :: s =>
      if x == '\n' then some (take .lineEnd 1 c)
      else if Text.isIdentifierStart x then
        let word := x :: s.takeWhile Text.isIdentifierPart
        some (take (ofWord admissible (String.ofList word)) word.length c)
      else (longest admissible (candidates c.rest)).map fun (t, n) => take t n c

end Token
end Registrar
