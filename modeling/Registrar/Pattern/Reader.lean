import Registrar.Pattern.Class
import Registrar.Pattern.Size
/-!
# Reading patterns

The written form of patterns: literals, `.`, anchors, classes, escapes, groups, alternatives and
repetitions. The text is read from the left with a stack of open groups. How deep the parts of a
pattern are nested is bounded, and so is the size of a pattern.
-/
namespace Registrar.Pattern

/-! ## Groups -/

/-- A part of a pattern. -/
structure Part where
  pattern : Pattern := .empty
  /-- How deep the text of the part is nested. -/
  depth : Nat := 0
  /-- A change of modes cannot be repeated. -/
  repeatable : Bool := true

/-- How deep a text is nested that consists of parts: one deeper than its parts, if there are
several. -/
def depthOf (parts : List Part) : Nat :=
  let inner := (parts.map (·.depth)).foldl max 0
  if parts.length ≥ 2 then inner + 1 else inner

/-- An open group. -/
structure Group where
  /-- The modes outside the group, which are in force again after it. -/
  modes : Modes := {}
  /-- Whether the piece of the group is remembered. -/
  captures : Bool := false
  /-- The finished alternatives, latest first. -/
  branches : List Part := []
  /-- The parts of the alternative being read, latest first. -/
  parts : List Part := []

namespace Group

def push (g : Group) (p : Part) : Group := { g with parts := p :: g.parts }

/-- The alternative being read. -/
def branch (g : Group) : Part :=
  { pattern := sequence ((g.parts.reverse.map (·.pattern)).filter (· != .empty))
    depth := depthOf g.parts }

/-- Starts another alternative. -/
def bar (g : Group) : Group := { g with branches := g.branch :: g.branches, parts := [] }

/-- What stands in the group. -/
def content (g : Group) : Part :=
  { pattern := choice ((g.branch :: g.branches).reverse.map (·.pattern))
    depth := depthOf (g.branch :: g.branches) }

/-- The group as a part. -/
def part (g : Group) : Part :=
  let c := g.content
  { pattern := if g.captures then .captured c.pattern else c.pattern, depth := c.depth + 1 }

end Group

/-- Where the reading stands. -/
structure Reading where
  modes : Modes := {}
  group : Group := {}
  /-- The groups around the current one, innermost first. -/
  outer : List Group := []
  /-- The group names used so far. -/
  names : List String := []

namespace Reading

def push (r : Reading) (p : Part) : Reading := { r with group := r.group.push p }

def pushPlace (r : Reading) (p : Assertion) : Reading := r.push { pattern := .place p }

def pushSet (r : Reading) (s : CharSet) : Reading := r.push { pattern := .char s }

def pushChar (r : Reading) (c : Char) : Reading := r.pushSet (r.modes.fold (.single c))

/-- Changes the modes in the rest of the group. -/
def setModes (r : Reading) (modes : Modes) : Reading :=
  { r with modes, group := r.group.push { repeatable := false } }

def openGroup (r : Reading) (inside : Modes) (captures : Bool) : Reading :=
  { r with modes := inside, group := { modes := r.modes, captures }, outer := r.group :: r.outer }

def closeGroup (r : Reading) : Except PatternError Reading :=
  match r.outer with
  | [] => .error .unopenedGroup
  | g :: outer => .ok { r with modes := r.group.modes, group := g.push r.group.part, outer }

/-- Repeats the last part. -/
def repeatLast (r : Reading) (least : Nat) (most : Option Nat) : Except PatternError Reading :=
  match r.group.parts with
  | p :: ps =>
    if p.repeatable then
      let part : Part := { pattern := p.pattern.times least most, depth := p.depth + 1 }
      .ok { r with group := { r.group with parts := part :: ps } }
    else .error .nothingToRepeat
  | [] => .error .nothingToRepeat

end Reading

def isGroupName : List Char → Bool
  | [] => false
  | c :: s => isFirst c && s.all fun c => isFirst c || isLater c
where
  isFirst (c : Char) : Bool := c == '_' || Text.alphabetic.contains c
  isLater (c : Char) : Bool :=
    c == '.' || c == '[' || c == ']' || (Text.categories ["nd", "nl", "no"]).contains c

/-- Opens a group after reading its name. -/
def readNamed (r : Reading) (s : List Char) : Except PatternError (Reading × List Char) :=
  match Text.splitOnce? '>' s with
  | none => .error .invalidGroupName
  | some (name, rest) =>
    if !isGroupName name then .error .invalidGroupName
    else if r.names.contains (String.ofList name) then
      .error (.duplicateGroupName (String.ofList name))
    else .ok ({ r.openGroup r.modes true with names := String.ofList name :: r.names }, rest)

def isModeLetter (c : Char) : Bool := c != ')' && c != ':'

/-- Reads what follows an opening parenthesis. -/
def readOpening (r : Reading) (s : List Char) : Except PatternError (Reading × List Char) :=
  match r.modes.skip s with
  | '?' :: '=' :: _ | '?' :: '!' :: _ | '?' :: '<' :: '=' :: _ | '?' :: '<' :: '!' :: _ =>
    .error .lookAround
  | '?' :: 'P' :: '<' :: s => readNamed r s
  | '?' :: '<' :: s => readNamed r s
  | '?' :: s =>
    let letters := s.takeWhile isModeLetter
    match s.dropWhile isModeLetter, readModes r.modes true [] letters with
    | [], _ => .error .unclosedGroup
    | _, none => .error .invalidFlags
    | close :: rest, some modes =>
      if close == ':' then .ok (r.openGroup modes false, rest)
      else if letters.isEmpty then .error .nothingToRepeat
      else .ok (r.setModes modes, rest)
  | s => .ok (r.openGroup r.modes true, s)

/-! ## Repetitions -/

/-- Reads a 32-bit count with blanks around it. -/
def readCount (s : List Char) : Except PatternError Nat :=
  match Text.number? (Text.trim s) with
  | some n => if n < 0x100000000 then .ok n else .error .invalidCount
  | none => .error .invalidCount

/-- Reads the bounds of a repetition, which stand between braces. -/
def readBounds (s : List Char) : Except PatternError (Nat × Option Nat) :=
  match Text.splitOnce? ',' s with
  | none => (readCount s).map fun n => (n, some n)
  | some (least, []) => (readCount least).map fun n => (n, none)
  | some (least, most) =>
    match readCount least, readCount most with
    | .ok least, .ok most =>
      if least ≤ most then .ok (least, some most) else .error .invalidCount
    | _, _ => .error .invalidCount

/-- A question mark after a repetition prefers short pieces, which does not change what matches. -/
def skipLazy : List Char → List Char
  | '?' :: s => s
  | s => s

/-! ## Whole patterns -/

/-- What a dot stands for. -/
def Modes.dot (m : Modes) : Except PatternError CharSet :=
  if !m.unicode then .error .notAscii
  else if m.dotAll then .ok .all
  else if m.crlf then .ok (CharSet.ofTable ["A D"]).complement
  else .ok (CharSet.single '\n').complement

/-- Reads one part of a pattern. -/
def readPart (r : Reading) (c : Char) (s : List Char) :
    Except PatternError (Reading × List Char) :=
  let m := r.modes
  let repetition (least : Nat) (most : Option Nat) :=
    (r.repeatLast least most).map fun r => (r, skipLazy s)
  match c with
  | '(' => readOpening r s
  | ')' => r.closeGroup.map fun r => (r, s)
  | '|' => .ok ({ r with group := r.group.bar }, s)
  | '[' =>
    (readClass m s).map fun (c, s) => (r.push { pattern := .char c.set, depth := c.depth }, s)
  | '.' => m.dot.map fun set => (r.pushSet set, s)
  | '^' => .ok (r.pushPlace (if m.linewise then .lineStart m.crlf else .textStart), s)
  | '$' => .ok (r.pushPlace (if m.linewise then .lineEnd m.crlf else .textEnd), s)
  | '*' => repetition 0 none
  | '+' => repetition 1 none
  | '?' => repetition 0 (some 1)
  | '{' =>
    match m.braced? false s with
    | none => .error .unclosedCount
    | some (bounds, rest) =>
      match readBounds bounds with
      | .error e => .error e
      | .ok (least, most) =>
        (r.repeatLast least most).map fun r => (r, skipLazy (m.skip rest))
  | '\\' =>
    match readEscape m s with
    | .error e => .error e
    | .ok (.char c, s) => .ok (r.pushChar c, s)
    | .ok (.set set, s) => .ok (r.pushSet set, s)
    | .ok (.place p, s) => .ok (r.pushPlace p, s)
  | c => .ok (r.pushChar c, s)

/-- How deep a pattern may be nested. -/
def depthLimit : Nat := 250

/-- The pattern that was read, if every group is closed and no bound is passed. -/
def Reading.finish (r : Reading) : Except PatternError Pattern :=
  let c := r.group.content
  if !r.outer.isEmpty then .error .unclosedGroup
  else if c.depth > depthLimit then .error .nestedTooDeep
  else if c.pattern.size > sizeLimit then .error .tooLarge
  else .ok c.pattern

/-- Reads the rest of a pattern; `fuel` bounds the number of parts, each of which has a character or
more. -/
def readFrom : (fuel : Nat) → Reading → List Char → Except PatternError Pattern
  | 0, r, _ => r.finish
  | fuel + 1, r, s =>
    match r.modes.skip s with
    | [] => r.finish
    | c :: tail =>
      match readPart r c tail with
      | .error e => .error e
      | .ok (r, rest) => readFrom fuel r rest

/-- Reads a written pattern. -/
def read (text : String) : Except PatternError Pattern := readFrom text.length {} text.toList

end Registrar.Pattern
