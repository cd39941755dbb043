import Registrar.Text.Basic
/-!
# Layout of source text

The layout pass gives every line one tab per open bracket and leaves at most one blank line between
two others. Brackets inside comments and literals do not count, and lines that start inside a block
comment or a raw string stay as they are.
-/
namespace Registrar.Layout
open Text

/-! ## Scanning a line -/

/-- What a line starts in. -/
inductive LineState where
  | code
  | blockComment
  | rawString
deriving DecidableEq, Repr

/-- Where a scan stands inside a line: besides the states that last over line ends, a quoted
literal and the character after its backslash. -/
inductive ScanState where
  | code
  | blockComment
  | rawString
  | literal (quote : Char)
  | escaped (quote : Char)
deriving DecidableEq, Repr

def LineState.scan : LineState → ScanState
  | code => .code
  | blockComment => .blockComment
  | rawString => .rawString

/-- A line end closes quoted literals. -/
def ScanState.endLine : ScanState → LineState
  | code => .code
  | blockComment => .blockComment
  | rawString => .rawString
  | literal _ => .code
  | escaped _ => .code

def isOpening (c : Char) : Bool := c == '(' || c == '{' || c == '['

def isClosing (c : Char) : Bool := c == ')' || c == '}' || c == ']'

/-- The bracket depth that one character of code adds. -/
def weight (c : Char) : Int :=
  if isOpening c then 1 else if isClosing c then -1 else 0

/-- The state that a character of code leads to. -/
def ScanState.ofCode (c : Char) : ScanState :=
  if c == '\x60' then .rawString
  else if c == '"' || c == '\'' then .literal c
  else .code

/-- The state at the end of a line and the brackets opened less those closed. -/
def scan : ScanState → List Char → LineState × Int
  | q, [] => (q.endLine, 0)
  | .blockComment, '*' :: '/' :: s => scan .code s
  | .blockComment, _ :: s => scan .blockComment s
  | .rawString, c :: s => scan (if c == '\x60' then .code else .rawString) s
  | .literal q, c :: s =>
    scan (if c == '\\' then .escaped q else if c == q then .code else .literal q) s
  | .escaped q, _ :: s => scan (.literal q) s
  | .code, '/' :: '/' :: _ => (.code, 0)
  | .code, '/' :: '*' :: s => scan .blockComment s
  | .code, c :: s =>
    let (q, d) := scan (ScanState.ofCode c) s
    (q, weight c + d)

def scanLine (q : LineState) (line : List Char) : LineState × Int := scan q.scan line

/-! ## The pass over the lines -/

/-- What the pass knows before a line. -/
structure State where
  line : LineState := .code
  depth : Nat := 0
  /-- Something has been written. -/
  started : Bool := false
  /-- A blank line is due before the next line. -/
  blank : Bool := false
deriving DecidableEq, Repr

/-- The state after a written line; the depth never falls below zero. -/
def State.advance (st : State) (line : List Char) : State :=
  let (q, d) := scanLine st.line line
  { line := q, depth := ((st.depth : Int) + d).toNat, started := true, blank := false }

/-- The tabs before a line: one per open bracket, less the brackets it closes first. -/
def indentation (depth : Nat) (line : List Char) : List Char :=
  List.replicate (depth - (line.takeWhile isClosing).length) '\t'

/-- Lays out the lines from a state on. -/
def lay (st : State) : List (List Char) → List (List Char)
  | [] => []
  | line :: rest =>
    if st.line ≠ .code then line :: lay (st.advance line) rest
    else
      let trimmed := trim line
      if trimmed.isEmpty then lay { st with blank := st.started } rest
      else
        let written := indentation st.depth trimmed ++ trimmed
        let after := lay (st.advance trimmed) rest
        if st.blank then [] :: written :: after else written :: after

/-- Ends each line with a line feed. -/
def unlines (ls : List (List Char)) : List Char := ls.flatMap fun l => l ++ ['\n']

def reindentChars (source : List Char) : List Char := unlines (lay {} (lines source))

def reindent (source : String) : String := onChars reindentChars source

end Registrar.Layout
