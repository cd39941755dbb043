/-!
# Places in source text

A position counts characters from the start, lines from zero, and columns in bytes of the UTF-8
form. A span is the form in which places are reported: lines from one, in 32-bit words.
-/
namespace Registrar

/-- A place between two characters of a text. -/
structure Position where
  offset : Nat := 0
  row : Nat := 0
  column : Nat := 0
deriving DecidableEq, Repr

namespace Position

/-- The place after one more character. -/
def next (p : Position) (c : Char) : Position :=
  if c = '\n' then ⟨p.offset + 1, p.row + 1, 0⟩
  else ⟨p.offset + 1, p.row, p.column + c.utf8Size⟩

def advance (p : Position) (s : List Char) : Position := s.foldl next p

end Position

/-- A reported range; its end is exclusive. -/
structure Span where
  startLine : UInt32 := 0
  startColumn : UInt32 := 0
  endLine : UInt32 := 0
  endColumn : UInt32 := 0
deriving DecidableEq, Repr

namespace Span

def containsLine (s : Span) (line : UInt32) : Bool := s.startLine ≤ line && line ≤ s.endLine

/-- The number of lines touched; a span that ends before it starts touches none. -/
def lineCount (s : Span) : UInt32 :=
  if s.endLine ≥ s.startLine then s.endLine - s.startLine + 1 else 0

def between (start stop : Position) : Span :=
  ⟨.ofNat (start.row + 1), .ofNat start.column, .ofNat (stop.row + 1), .ofNat stop.column⟩

end Span
end Registrar
