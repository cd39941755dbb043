import Registrar.Text.Basic
/-!
# Modes of reading patterns

Letters in a pattern switch modes on and off. In the spaced mode blanks and comments are free: they
may stand between any two parts and mean nothing.
-/
namespace Registrar

inductive PatternError where
  | escapeAtEnd
  | unknownEscape (c : Char)
  | backreference
  | invalidCode
  | unknownSet (name : String)
  | unknownBoundary (name : String)
  | notAscii
  | unclosedClass
  | invalidRange
  | unclosedGroup
  | unopenedGroup
  | lookAround
  | invalidGroupName
  | duplicateGroupName (name : String)
  | invalidFlags
  | nothingToRepeat
  | unclosedCount
  | invalidCount
  | nestedTooDeep
  | tooLarge
deriving DecidableEq, Repr

def PatternError.message : PatternError → String
  | escapeAtEnd => "incomplete escape sequence, reached end of pattern"
  | unknownEscape c => "unrecognized escape sequence \\" ++ String.singleton c
  | backreference => "backreferences are not supported"
  | invalidCode => "escape is not a valid character"
  | unknownSet name => "unknown Unicode property " ++ name
  | unknownBoundary name => "unknown word boundary " ++ name
  | notAscii => "only ASCII is allowed here without Unicode mode"
  | unclosedClass => "unclosed character class"
  | invalidRange => "invalid character class range"
  | unclosedGroup => "unclosed group"
  | unopenedGroup => "unopened group"
  | lookAround => "look-around is not supported"
  | invalidGroupName => "invalid group name"
  | duplicateGroupName name => "duplicate group name " ++ name
  | invalidFlags => "invalid flags"
  | nothingToRepeat => "repetition operator missing expression"
  | unclosedCount => "unclosed counted repetition"
  | invalidCount => "invalid repetition count"
  | nestedTooDeep => "nested too deep"
  | tooLarge => "pattern exceeds the size limit"

namespace Pattern

/-- The modes in force at a place of a pattern. -/
structure Modes where
  ignoreCase : Bool := false
  /-- Anchors stand for the ends of lines. -/
  linewise : Bool := false
  /-- A dot stands for line ends, too. -/
  dotAll : Bool := false
  /-- Classes and escapes stand for sets of all characters, not of ASCII characters only. -/
  unicode : Bool := true
  /-- A carriage return ends a line, too. -/
  crlf : Bool := false
  /-- Blanks and comments are free. -/
  spaced : Bool := false
deriving DecidableEq, Repr

/-- Applies the letters of a change of modes; letters after a dash switch modes off. No letter may
stand twice, nor a dash at the end. The preference for short pieces does not change what matches. -/
def readModes (m : Modes) (on : Bool) (seen : List Char) : List Char → Option Modes
  | [] => if seen.head? == some '-' then none else some m
  | c :: s =>
    if seen.contains c then none
    else match c with
      | '-' => readModes m false (c :: seen) s
      | 'i' => readModes { m with ignoreCase := on } on (c :: seen) s
      | 'm' => readModes { m with linewise := on } on (c :: seen) s
      | 's' => readModes { m with dotAll := on } on (c :: seen) s
      | 'u' => readModes { m with unicode := on } on (c :: seen) s
      | 'R' => readModes { m with crlf := on } on (c :: seen) s
      | 'x' => readModes { m with spaced := on } on (c :: seen) s
      | 'U' => readModes m on (c :: seen) s
      | _ => none

/-! ## Free space -/

/-- The text after blanks and comments. A comment goes from a number sign to the end of its line. -/
def afterSpace (comment : Bool) : List Char → List Char
  | [] => []
  | c :: s =>
    if comment then afterSpace (c != '\n') s
    else if Text.isBlank c then afterSpace false s
    else if c == '#' then afterSpace true s
    else c :: s

/-- The text after what is free at its start. -/
def Modes.skip (m : Modes) (s : List Char) : List Char :=
  if m.spaced then afterSpace false s else s

/-- What stands before a closing brace, without what is free there, and what follows the brace. -/
def Modes.braced? (m : Modes) (comment : Bool) : List Char → Option (List Char × List Char)
  | [] => none
  | c :: s =>
    if comment then m.braced? (c != '\n') s
    else if c == '}' then some ([], s)
    else if m.spaced && Text.isBlank c then m.braced? false s
    else if m.spaced && c == '#' then m.braced? true s
    else (m.braced? false s).map fun (t, rest) => (c :: t, rest)

/-- The next `n` characters that are not free, and what follows them. -/
def Modes.next? (m : Modes) (comment : Bool) (n : Nat) (s : List Char) :
    Option (List Char × List Char) :=
  match n, s with
  | 0, s => some ([], s)
  | _ + 1, [] => none
  | n + 1, c :: s =>
    if comment then m.next? (c != '\n') (n + 1) s
    else if m.spaced && Text.isBlank c then m.next? false (n + 1) s
    else if m.spaced && c == '#' then m.next? true (n + 1) s
    else (m.next? false n s).map fun (t, rest) => (c :: t, rest)
termination_by structural s

end Pattern
end Registrar
