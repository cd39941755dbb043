/-!
# What the grammar reads

A terminal is a class of tokens that the grammar tells apart. Sets of terminals are kept as the bits
of a number, one bit for each place in the list of all terminals.
-/
namespace Registrar

inductive Terminal where
  | endOfText
  | lineEnd
  /-- The character with code zero, which ends a statement as a line end does. -/
  | nul
  | comment
  | identifier
  | int
  | float
  | imaginary
  | rune
  | rawString
  | openingQuote
  /-- A stretch of a quoted string without escapes. -/
  | content
  | escape
  | closingQuote
  | mark (text : String)
  | keyword (word : String)
deriving DecidableEq, Repr

namespace Terminal

/-- The marks of punctuation. -/
def marks : List String :=
  ["&^=", "<<=", ">>=", "...", "&&", "||", "<-", "++", "--", "==", "!=", "<=", ">=", ":=", "+=",
   "-=", "*=", "/=", "%=", "&=", "|=", "^=", "<<", ">>", "&^", "+", "-", "*", "/", "%", "&", "|",
   "^", "<", ">", "=", "!", "(", ")", "[", "]", "\x7b", "\x7d", ",", ";", ".", ":", "~"]

/-- The words that the grammar names. Where it admits none of them, a word is an identifier. -/
def keywords : List String :=
  ["package", "import", "const", "var", "func", "type", "struct", "interface", "map", "chan",
   "fallthrough", "break", "continue", "goto", "return", "go", "defer", "if", "else", "for",
   "range", "switch", "case", "default", "select", "new", "make", "nil", "true", "false", "iota",
   "_"]

/-- The terminals other than marks and keywords. -/
def classes : List Terminal :=
  [endOfText, lineEnd, nul, comment, identifier, int, float, imaginary, rune, rawString,
   openingQuote, content, escape, closingQuote]

/-- The number of terminals. -/
def count : Nat := classes.length + marks.length + keywords.length

/-- The place of a terminal in the list of all terminals. -/
def index : Terminal → Nat
  | mark s => classes.length + marks.idxOf s
  | keyword w => classes.length + marks.length + keywords.idxOf w
  | t => classes.idxOf t

end Terminal

/-- A set of terminals: the bits at their places. -/
structure TerminalSet where
  bits : Nat := 0
deriving DecidableEq, Repr, Hashable

namespace TerminalSet

def empty : TerminalSet := {}

def isEmpty (s : TerminalSet) : Bool := s.bits == 0

def hasIndex (s : TerminalSet) (i : Nat) : Bool := s.bits.testBit i

def has (s : TerminalSet) (t : Terminal) : Bool := s.hasIndex t.index

def ofIndex (i : Nat) : TerminalSet := ⟨1 <<< i⟩

def of (t : Terminal) : TerminalSet := ofIndex t.index

def union (s t : TerminalSet) : TerminalSet := ⟨s.bits ||| t.bits⟩

theorem hasIndex_union (s t : TerminalSet) (i : Nat) :
    (s.union t).hasIndex i = (s.hasIndex i || t.hasIndex i) := by
  simp [union, hasIndex]

end TerminalSet
end Registrar
