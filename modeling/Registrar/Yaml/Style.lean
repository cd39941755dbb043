import Registrar.Yaml.Text
/-!
# Forms of scalars

A scalar is written plain, in single or double quotes, or as a block of lines, literal or folded.
Each form has a function that reads it and gives its text and what follows.
-/
namespace Registrar.Yaml

inductive Style where
  | plain
  | singleQuoted
  | doubleQuoted
  | literal
  | folded
deriving DecidableEq, Repr

/-! ## Folding -/

/-- The line ends between two pieces of folded text: a single line feed becomes a space, and of
several the first is dropped. -/
def foldBreaks (first : Char) (more : List Char) : List Char :=
  if first == '\n' then (if more.isEmpty then [' '] else more) else first :: more

/-- What has been read but not yet kept: blanks, or the line ends after which blanks are skipped. -/
inductive Pending where
  | blanks (s : List Char)
  /-- An escaped line end leaves no first break. -/
  | breaks (first : Option Char) (more : List Char)

namespace Pending

def text : Pending → List Char
  | blanks s => s
  | breaks none more => more
  | breaks (some first) more => foldBreaks first more

def pad (c : Char) : Pending → Pending
  | blanks s => blanks (s ++ [c])
  | p => p

def lineEnd (c : Char) : Pending → Pending
  | blanks _ => breaks (some c) []
  | breaks first more => breaks first (more ++ [c])

def isBreaks : Pending → Bool
  | breaks _ _ => true
  | blanks _ => false

def isEmpty : Pending → Bool
  | blanks [] => true
  | _ => false

end Pending

/-- A scalar as read: its text and what follows it. -/
structure Reading where
  text : List Char
  rest : List Spot
  /-- Line ends have been read after the text. -/
  crossedLine : Bool := false

namespace Reading

def prepend (s : List Char) (r : Reading) : Reading := { r with text := s ++ r.text }

end Reading

/-! ## Plain scalars -/

def isFlowMark (c : Char) : Bool :=
  c == ',' || c == '[' || c == ']' || c == '\x7b' || c == '\x7d'

/-- Whether a plain scalar ends before a character, given what follows the character. -/
def endsPlain (flow : Bool) (c : Char) (after : List Spot) : Bool :=
  (c == ':' && atGap after) || (flow && isFlowMark c)

/-- In a flow mapping a colon inside a plain scalar must not stand before a mark. -/
def misplacedColon (flow : Bool) (c : Char) (after : List Spot) : Bool :=
  flow && c == ':' && (after.head?.map fun y => isFlowMark y.char || y.char == '?').getD false

/-- Reads a plain scalar. Outside flow mappings it goes on over line ends as long as the lines are
indented to `least`. Blanks after it are skipped. -/
def plain (flow : Bool) (least : Int) (p : Pending) : List Spot → Except ReadError Reading
  | [] => .ok ⟨[], [], p.isBreaks⟩
  | x :: s =>
    if x.isBreak then plain flow least (p.lineEnd x.char) s
    else if x.isPad then
      if x.char == '\t' && p.isBreaks && (x.column : Int) < least then .error .badIndentation
      else plain flow least (p.pad x.char) s
    else if !p.isEmpty &&
        ((!flow && (x.column : Int) < least) || atAnyMarker (x :: s) || x.char == '#') then
      .ok ⟨[], x :: s, p.isBreaks⟩
    else if misplacedColon flow x.char s then .error .unexpectedText
    else if endsPlain flow x.char s then .ok ⟨[], x :: s, p.isBreaks⟩
    else (plain flow least (.blanks []) s).map (·.prepend (p.text ++ [x.char]))

/-- Whether a plain scalar can start here. -/
def startsPlain (flow : Bool) : List Spot → Bool
  | [] => false
  | x :: s =>
    let c := x.char
    if c == '-' then !atGap s
    else if c == '?' || c == ':' then !flow && !atGap s
    else !x.isBlank && !isFlowMark c && !"#&*!|>'\"%@\x60".toList.contains c

/-! ## Quoted scalars -/

/-- Reads a single-quoted scalar after its opening quote. -/
def singleQuoted (p : Pending) : List Spot → Except ReadError Reading
  | [] => .error .unterminated
  | [x] => if x.char == '\'' then .ok ⟨p.text, [], false⟩ else .error .unterminated
  | x :: y :: s =>
    if x.isBreak then singleQuoted (p.lineEnd x.char) (y :: s)
    else if x.isPad then singleQuoted (p.pad x.char) (y :: s)
    else if p.isBreaks && atAnyMarker (x :: y :: s) then .error .unexpectedText
    else if x.char == '\'' then
      if y.char == '\'' then (singleQuoted (.blanks []) s).map (·.prepend (p.text ++ ['\'']))
      else .ok ⟨p.text, y :: s, false⟩
    else (singleQuoted (.blanks []) (y :: s)).map (·.prepend (p.text ++ [x.char]))

/-- The escapes of one letter. -/
def escapes : List (Char × Char) :=
  [('0', '\x00'), ('a', '\x07'), ('b', '\x08'), ('t', '\t'), ('\t', '\t'), ('n', '\n'),
   ('v', '\x0b'), ('f', '\x0c'), ('r', '\r'), ('e', '\x1b'), (' ', ' '), ('"', '"'), ('/', '/'),
   ('\\', '\\'), ('N', '\u0085'), ('_', '\u00a0'), ('L', '\u2028'), ('P', '\u2029')]

/-- The number of hexadecimal digits after a letter. -/
def codeWidths : List (Char × Nat) := [('x', 2), ('u', 4), ('U', 8)]

/-- The character whose code the next `width` digits give. -/
def charOfCode? (width : Nat) (s : List Char) : Option Char :=
  if s.length < width then none else Text.hexChar? (s.take width)

/-- Reads a double-quoted scalar after its opening quote. -/
def doubleQuoted (p : Pending) : List Spot → Except ReadError Reading
  | [] => .error .unterminated
  | x :: s =>
    if x.isBreak then doubleQuoted (p.lineEnd x.char) s
    else if x.isPad then doubleQuoted (p.pad x.char) s
    else if p.isBreaks && atAnyMarker (x :: s) then .error .unexpectedText
    else if x.char == '"' then .ok ⟨p.text, s, false⟩
    else if x.char == '\\' then
      match s with
      | [] => .error .invalidEscape
      | y :: t =>
        if y.isBreak then (doubleQuoted (.breaks none []) t).map (·.prepend p.text)
        else match escapes.lookup y.char, codeWidths.lookup y.char with
          | some d, _ => (doubleQuoted (.blanks []) t).map (·.prepend (p.text ++ [d]))
          | none, some width =>
            match charOfCode? width (charsOf (t.take width)) with
            | some d =>
              (doubleQuoted (.blanks []) (t.drop width)).map (·.prepend (p.text ++ [d]))
            | none => .error .invalidEscape
          | none, none => .error .invalidEscape
    else (doubleQuoted (.blanks []) s).map (·.prepend (p.text ++ [x.char]))
termination_by s => s.length
decreasing_by all_goals simp [List.length_drop] <;> omega

/-! ## Block scalars -/

/-- What a block keeps of the line ends after its text. -/
inductive Ending where
  | all
  | one
  | none
deriving DecidableEq, Repr

/-- The header of a block scalar. -/
structure BlockHeader where
  ending : Ending := .one
  /-- The indentation relative to the parent, when it is given. -/
  indent : Option Nat := none

/-- Reads the marks after the mark of the style, in either order. -/
def blockHeader (s : List Spot) : Except ReadError (BlockHeader × List Spot) :=
  let ending? : List Spot → Option Ending × List Spot
    | x :: s =>
      if x.char == '+' then (some .all, s) else if x.char == '-' then (some .none, s)
      else (none, x :: s)
    | [] => (none, [])
  let indent? : List Spot → Option Nat × List Spot
    | x :: s => if x.char.isDigit then (some (x.char.toNat - '0'.toNat), s) else (none, x :: s)
    | [] => (none, [])
  let (first, s) := ending? s
  let (indent, s) := indent? s
  let (second, s) := if first.isNone && indent.isSome then ending? s else (none, s)
  if indent == some 0 then .error .badIndentation
  else .ok (⟨(first.or second).getD .one, indent⟩, s)

/-- Empty lines of a block: their line ends, the widest indentation seen, and the text of the line
after them. -/
structure EmptyLines where
  breaks : List Char
  widest : Nat
  rest : List Spot

/-- Reads empty lines. Up to column `limit` spaces are indentation; `none` when a tab stands among
them. -/
def emptyLines (limit : Option Nat) (column widest : Nat) : List Spot → Option EmptyLines
  | [] => some ⟨[], Nat.max widest column, []⟩
  | x :: s =>
    let inside := limit.all fun l => x.column < l
    if x.char == ' ' && inside then emptyLines limit (x.column + 1) widest s
    else if x.char == '\t' && inside then none
    else if x.isBreak then
      (emptyLines limit 0 (Nat.max widest x.column) s).map fun e =>
        { e with breaks := x.char :: e.breaks }
    else some ⟨[], Nat.max widest x.column, x :: s⟩

/-- The text of a block so far and the line ends that are not yet part of it. -/
structure BlockText where
  text : List Char := []
  lastBreak : List Char := []
  breaks : List Char := []
  /-- The last line started with a blank, which keeps it from being folded. -/
  padded : Bool := false

/-- Adds one line of text, the line end after it and the empty lines that follow. -/
def BlockText.addLine (t : BlockText) (folded : Bool) (line lineEnd breaks : List Char) :
    BlockText :=
  let padded := (line.head?.map isPad).getD false
  let join :=
    if folded && t.lastBreak == ['\n'] && !t.padded && !padded then
      if t.breaks.isEmpty then [' '] else []
    else t.lastBreak
  { text := t.text ++ join ++ t.breaks ++ line, lastBreak := lineEnd, breaks, padded }

/-- Reads the lines of a block that stand at its indentation, at most `n` of them. -/
def blockLines (folded : Bool) (indent : Nat) :
    Nat → BlockText → List Spot → Except ReadError (BlockText × List Spot)
  | 0, t, s => .ok (t, s)
  | n + 1, t, s =>
    if (s.head?.map fun x => x.column != indent).getD true then .ok (t, s)
    else
      let line := s.takeWhile fun x => !x.isBreak
      let after := s.dropWhile fun x => !x.isBreak
      match emptyLines (some indent) 0 0 (after.drop 1) with
      | none => .error .badIndentation
      | some e =>
        let t := t.addLine folded (charsOf line) (charsOf (after.take 1)) e.breaks
        blockLines folded indent n t e.rest

def BlockText.ended (t : BlockText) : Ending → List Char
  | .all => t.text ++ t.lastBreak ++ t.breaks
  | .one => t.text ++ t.lastBreak
  | .none => t.text

/-- Reads a block scalar after the mark of its style. The construct around it is indented by
`parent`. -/
def blockScalar (folded : Bool) (parent : Int) (s : List Spot) : Except ReadError Reading :=
  match blockHeader s with
  | .error e => .error e
  | .ok (h, s) =>
    match restOfLine? s with
    | none => .error .unexpectedText
    | some lineEnd =>
      let limit := h.indent.map ((max parent 0).toNat + ·)
      match emptyLines limit 0 0 (lineEnd.drop 1) with
      | none => .error .badIndentation
      | some e =>
        let indent := limit.getD (Nat.max e.widest (Nat.max (parent + 1).toNat 1))
        (blockLines folded indent e.rest.length { breaks := e.breaks } e.rest).map fun (t, rest) =>
          ⟨t.ended h.ending, rest, true⟩

end Registrar.Yaml
