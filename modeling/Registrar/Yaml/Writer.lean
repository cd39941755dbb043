import Registrar.Yaml.Scalar
/-!
# Writing YAML text

A scalar is written plain where that reads back as the same text, else in single quotes, else in
double quotes with escapes; text with line ends is written as a literal block.
-/
namespace Registrar.Yaml

def isLineEnd (c : Char) : Bool :=
  c == '\n' || c == '\r' || c == '\u0085' || c == '\u2028' || c == '\u2029'

/-- The characters that may stand in a document as they are: neither control characters nor tabs
nor byte order marks. -/
def isPrintable (c : Char) : Bool :=
  let n := c.toNat
  n == 0x0A || (0x20 ≤ n && n ≤ 0x7E) || (0xA0 ≤ n && n ≤ 0xFFFD && n != 0xFEFF) || 0x10000 ≤ n

/-- Whether a blank, a line end or the end of the text stands here. -/
def blankAhead : List Char → Bool
  | [] => true
  | c :: _ => c == ' ' || c == '\t' || isLineEnd c

/-! ## Which styles a text allows -/

/-- A mark that would end or change a plain scalar inside it. -/
def hasInnerMark (afterBlank : Bool) : List Char → Bool
  | [] => false
  | c :: s =>
    (c == ':' && blankAhead s) || (c == '#' && afterBlank) ||
      hasInnerMark (c == ' ' || c == '\t' || isLineEnd c) s

/-- A mark that cannot start a plain scalar. -/
def hasLeadingMark : List Char → Bool
  | [] => false
  | c :: s =>
    "#,[]\x7b\x7d&*!|>'\"%@\x60".toList.contains c ||
      ((c == '?' || c == ':' || c == '-') && blankAhead s)

def hasMark (s : List Char) : Bool :=
  "---".toList.isPrefixOf s || "...".toList.isPrefixOf s || hasLeadingMark s ||
    hasInnerMark false (s.drop 1)

/-- Whether some neighbours are `p` and then `q`. -/
def hasNeighbours (p q : Char → Bool) : List Char → Bool
  | a :: b :: s => (p a && q b) || hasNeighbours p q (b :: s)
  | _ => false

def isSpace (c : Char) : Bool := c == ' '

def allPrintable (s : List Char) : Bool := s.all isPrintable

def plainAllowed (s : List Char) : Bool :=
  allPrintable s && !s.any isLineEnd && s.head? != some ' ' && s.getLast? != some ' ' &&
    !hasMark s

def singleAllowed (s : List Char) : Bool :=
  allPrintable s && !hasNeighbours isSpace isLineEnd s && !hasNeighbours isLineEnd isSpace s

def blockAllowed (s : List Char) : Bool :=
  allPrintable s && s.getLast? != some ' ' && !hasNeighbours isSpace isLineEnd s

/-! ## The styles -/

/-- In single quotes a quote is doubled, and text after a line end is indented. -/
def singleBody (indent : Nat) (afterLineEnd : Bool) : List Char → List Char
  | [] => if afterLineEnd then List.replicate indent ' ' else []
  | c :: s =>
    if isLineEnd c then c :: singleBody indent true s
    else
      let lead := if afterLineEnd then List.replicate indent ' ' else []
      lead ++ (if c == '\'' then ['\'', '\''] else [c]) ++ singleBody indent false s

def single (indent : Nat) (s : List Char) : List Char :=
  ['\''] ++ singleBody indent false s ++ ['\'']

/-- The letters of the escapes that have one. -/
def escapeLetters : List (Char × Char) :=
  [('\x00', '0'), ('\x07', 'a'), ('\x08', 'b'), ('\t', 't'), ('\n', 'n'), ('\x0b', 'v'),
   ('\x0c', 'f'), ('\r', 'r'), ('\x1b', 'e'), ('"', '"'), ('\\', '\\'), ('\u0085', 'N'),
   ('\u00a0', '_'), ('\u2028', 'L'), ('\u2029', 'P')]

def escape (c : Char) : List Char :=
  match escapeLetters.lookup c with
  | some l => ['\\', l]
  | none =>
    let n := c.toNat
    if n ≤ 0xFF then '\\' :: 'x' :: Text.hex 2 n
    else if n ≤ 0xFFFF then '\\' :: 'u' :: Text.hex 4 n
    else '\\' :: 'U' :: Text.hex 8 n

def double (s : List Char) : List Char :=
  let body := s.flatMap fun c =>
    if !isPrintable c || isLineEnd c || c == '"' || c == '\\' then escape c else [c]
  ['"'] ++ body ++ ['"']

/-- The lines of a block; each starts with the indentation, empty ones without it. -/
def blockBody (indent : Nat) (lineStart : Bool) : List Char → List Char
  | [] => if lineStart then [] else ['\n']
  | c :: s =>
    if isLineEnd c then c :: blockBody indent true s
    else (if lineStart then List.replicate indent ' ' else []) ++ c :: blockBody indent false s

/-- How a block keeps the line ends after its text. -/
def blockEnding (s : List Char) : List Char :=
  match s.reverse with
  | [] => ['-']
  | a :: rest =>
    if !isLineEnd a then ['-']
    else match rest with
      | [] => ['+']
      | b :: _ => if isLineEnd b then ['+'] else []

/-- A literal block, up to and with its last line end. The indentation of a block that starts with a
blank is given in its header. -/
def literal (indent : Nat) (s : List Char) : List Char :=
  let hint := match s with
    | c :: _ => if isSpace c || isLineEnd c then ['2'] else []
    | [] => []
  ['|'] ++ hint ++ blockEnding s ++ ['\n'] ++ blockBody (indent + 2) true s

/-- A value of a mapping that is indented by `indent`, up to and with the line end after it. -/
def scalarLine (indent : Nat) (s : String) : List Char :=
  let cs := s.toList
  let quoted := if singleAllowed cs then single (indent + 2) cs else double cs
  if cs.contains '\n' then
    if blockAllowed cs then literal indent cs else double cs ++ ['\n']
  else if isAmbiguous s || !plainAllowed cs then quoted ++ ['\n']
  else cs ++ ['\n']

end Registrar.Yaml
