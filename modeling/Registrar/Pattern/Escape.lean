import Registrar.Pattern.Basic
import Registrar.Pattern.Modes
import Registrar.Text.Case
import Registrar.Text.Named
/-!
# Escapes

What a backslash and the characters after it stand for: a character, a set of characters or a place.
-/
namespace Registrar.Pattern

/-- What stands for one character, a set of them, or a place. -/
inductive Escape where
  | char (c : Char)
  | set (s : CharSet)
  | place (p : Assertion)
deriving DecidableEq, Repr

/-! ## Sets -/

/-- The set together with the case variants of its characters, in a mode that ignores case. -/
def Modes.fold (m : Modes) (s : CharSet) : CharSet :=
  if m.ignoreCase then s.folded (if m.unicode then Text.foldings else Text.asciiFoldings) else s

/-- The other characters. Without Unicode mode they are no characters but bytes, which is
refused. -/
def Modes.negate (m : Modes) (negated : Bool) (s : CharSet) : Except PatternError CharSet :=
  if !negated then .ok s
  else if m.unicode then .ok s.complement
  else .error .notAscii

/-- The sets that a letter names; the upper-case letter stands for the other characters. -/
def letterSet? (m : Modes) (c : Char) : Option CharSet :=
  match c.toLower with
  | 'd' => some (if m.unicode then Text.decimalDigits else Text.asciiDigits)
  | 's' => some (if m.unicode then Text.blanks else Text.asciiBlanks)
  | 'w' => some (if m.unicode then Text.wordChars else Text.asciiWordChars)
  | _ => none

/-- The two parts of a name with a value. -/
def splitValue? (s : List Char) : Option (List Char × List Char) :=
  match (Text.splitOnce? '=' s).map fun (a, b) => (a.getLast?, a.dropLast, b) with
  | some (some '!', a, b) => some (a, b)
  | _ => (Text.splitOnce? ':' s).or (Text.splitOnce? '=' s)

/-- The set with a name, or of a property with a value. -/
def propertySet? (s : List Char) : Option CharSet :=
  match splitValue? s with
  | some (property, value) => Text.valuedSet? property value
  | none => Text.namedSet? s

/-- Reads the name of a set: one letter, or a name in braces. -/
def readProperty (m : Modes) (negated : Bool) (s : List Char) :
    Except PatternError (CharSet × List Char) :=
  let named := match m.skip s with
    | '{' :: s => m.braced? false s
    | c :: s => some ([c], s)
    | [] => none
  match named with
  | none => .error .escapeAtEnd
  | some (name, rest) =>
    if !m.unicode then .error .notAscii
    else match propertySet? name with
      | none => .error (.unknownSet (String.ofList name))
      | some set => (m.negate negated (m.fold set)).map fun set => (set, rest)

/-! ## Characters and places -/

/-- Reads a code of fixed width, or of any width in braces. Without Unicode mode two digits stand
for a byte. -/
def readCode (m : Modes) (width : Nat) (s : List Char) : Except PatternError (Char × List Char) :=
  let (code, isByte) := match m.skip s with
    | '{' :: s => (m.braced? false s, false)
    | s => (m.next? false width s, width == 2)
  match code with
  | none => .error .escapeAtEnd
  | some (digits, rest) =>
    match Text.hexChar? digits with
    | none => .error .invalidCode
    | some c =>
      if isByte && !m.unicode && c.toNat ≥ 0x80 then .error .notAscii else .ok (c, rest)

/-- The edges of words that have a name in braces. -/
def edgeNames : List (String × WordEdge) :=
  [("start", .start), ("end", .stop), ("start-half", .openStart), ("end-half", .openStop)]

/-- Reads the name of an edge after a boundary. Braces around anything but a name are a count. -/
def readEdge (m : Modes) (s : List Char) : Except PatternError (WordEdge × List Char) :=
  match s with
  | '{' :: inner =>
    match m.braced? false inner with
    | none => .error .unclosedCount
    | some (name, rest) =>
      if (name.head?.any fun c => c.isAlpha || c == '-') then
        match edgeNames.lookup (String.ofList name) with
        | some edge => .ok (edge, rest)
        | none => .error (.unknownBoundary (String.ofList name))
      else .ok (.boundary, s)
  | s => .ok (.boundary, s)

/-- ASCII characters that are neither letters, digits nor angle brackets stand for themselves after
a backslash. -/
def isEscapable (c : Char) : Bool :=
  c.toNat < 128 && !c.isAlphanum && c != '<' && c != '>'

/-- Reads what follows a backslash. -/
def readEscape (m : Modes) : List Char → Except PatternError (Escape × List Char)
  | [] => .error .escapeAtEnd
  | c :: s =>
    let char (c : Char) := .ok (.char c, s)
    let edge (e : WordEdge) := .ok (.place (.word e (!m.unicode)), s)
    match c with
    | 'b' => (readEdge m s).map fun (e, s) => (.place (.word e (!m.unicode)), s)
    | 'B' => edge .inside
    | '<' => edge .start
    | '>' => edge .stop
    | 'A' => .ok (.place .textStart, s)
    | 'z' => .ok (.place .textEnd, s)
    | 'a' => char '\x07'
    | 'f' => char '\x0c'
    | 'n' => char '\n'
    | 'r' => char '\r'
    | 't' => char '\t'
    | 'v' => char '\x0b'
    | 'x' => (readCode m 2 s).map fun (c, s) => (.char c, s)
    | 'u' => (readCode m 4 s).map fun (c, s) => (.char c, s)
    | 'U' => (readCode m 8 s).map fun (c, s) => (.char c, s)
    | 'p' => (readProperty m false s).map fun (set, s) => (.set set, s)
    | 'P' => (readProperty m true s).map fun (set, s) => (.set set, s)
    | c =>
      match letterSet? m c with
      | some set => (m.negate c.isUpper set).map fun set => (.set set, s)
      | none =>
        if isEscapable c then char c
        else if c.isDigit then .error .backreference
        else .error (.unknownEscape c)

end Registrar.Pattern
