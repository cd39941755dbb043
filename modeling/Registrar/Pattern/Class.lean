import Registrar.Pattern.Escape
/-!
# Bracketed classes

A class lists characters, ranges, named sets and other classes, and combines lists by operations on
sets. All operations bind alike, from the left. The text of a class is read from the left with a
stack of open brackets.
-/
namespace Registrar.Pattern

inductive SetOperation where
  | inter
  | diff
  | symmDiff
deriving DecidableEq, Repr

def SetOperation.apply : SetOperation → CharSet → CharSet → CharSet
  | inter, a, b => a.inter b
  | diff, a, b => a.diff b
  | symmDiff, a, b => a.symmDiff b

/-- A set, and how deep the class that describes it is nested. -/
structure ClassSet where
  set : CharSet
  depth : Nat
deriving DecidableEq, Repr

/-- The members of a list so far. -/
structure Members where
  set : CharSet := .empty
  count : Nat := 0
  depth : Nat := 0
deriving DecidableEq, Repr

namespace Members

def add (l : Members) (c : ClassSet) : Members :=
  { set := l.set.union c.set, count := l.count + 1, depth := max l.depth c.depth }

/-- The set of the members. A list of several is nested one deeper than they are. -/
def value (l : Members) : ClassSet :=
  { set := l.set, depth := if l.count ≥ 2 then l.depth + 1 else l.depth }

end Members

/-- An open bracket: the operation whose right side is being read, with its left side, and the
members read last. -/
structure Bracket where
  negated : Bool := false
  left : Option (ClassSet × SetOperation) := none
  members : Members := {}

namespace Bracket

def add (b : Bracket) (c : ClassSet) : Bracket := { b with members := b.members.add c }

def addSet (b : Bracket) (set : CharSet) : Bracket := b.add { set, depth := 0 }

/-- The set of what stands in the bracket. Both sides of an operation have their case variants. -/
def value (m : Modes) (b : Bracket) : ClassSet :=
  let right := b.members.value
  match b.left with
  | none => right
  | some (left, op) =>
    { set := op.apply (m.fold left.set) (m.fold right.set)
      depth := max left.depth right.depth + 1 }

/-- Starts the right side of an operation. -/
def operate (m : Modes) (b : Bracket) (op : SetOperation) : Bracket :=
  { b with left := some (b.value m, op), members := {} }

/-- The set of the whole bracket. -/
def close (m : Modes) (b : Bracket) : Except PatternError ClassSet :=
  let v := b.value m
  (m.negate b.negated (m.fold v.set)).map fun set => { set, depth := v.depth + 1 }

end Bracket

/-! ## Members -/

/-- The sets of ASCII characters that have names between colons. -/
def asciiClasses : List (String × List CodeRange) :=
  [("alnum", [(0x30, 0x39), (0x41, 0x5A), (0x61, 0x7A)]), ("alpha", [(0x41, 0x5A), (0x61, 0x7A)]),
   ("ascii", [(0, 0x7F)]), ("blank", [(0x9, 0x9), (0x20, 0x20)]),
   ("cntrl", [(0, 0x1F), (0x7F, 0x7F)]), ("digit", [(0x30, 0x39)]), ("graph", [(0x21, 0x7E)]),
   ("lower", [(0x61, 0x7A)]), ("print", [(0x20, 0x7E)]),
   ("punct", [(0x21, 0x2F), (0x3A, 0x40), (0x5B, 0x60), (0x7B, 0x7E)]),
   ("space", [(0x9, 0xD), (0x20, 0x20)]), ("upper", [(0x41, 0x5A)]),
   ("word", [(0x30, 0x39), (0x41, 0x5A), (0x5F, 0x5F), (0x61, 0x7A)]),
   ("xdigit", [(0x30, 0x39), (0x41, 0x46), (0x61, 0x66)])]

/-- A set with a name between colons, after its opening bracket: whether it is negated, the set and
what follows. -/
def asciiClass? : List Char → Option (Bool × CharSet × List Char)
  | ':' :: s =>
    let (negated, s) := match s with
      | '^' :: s => (true, s)
      | s => (false, s)
    match s.dropWhile (· != ':') with
    | ':' :: ']' :: rest =>
      (asciiClasses.lookup (String.ofList (s.takeWhile (· != ':')))).map fun rs =>
        (negated, .ofRanges rs, rest)
    | _ => none
  | _ => none

/-- Reads one member of a class: a character or a named set. -/
def readMember (m : Modes) : List Char → Except PatternError (Escape × List Char)
  | [] => .error .unclosedClass
  | '\\' :: s =>
    match readEscape m s with
    | .ok (.place _, _) => .error (.unknownEscape 'b')
    | r => r
  | c :: s => .ok (.char c, s)

/-- The set that a member stands for. -/
def memberSet : Escape → CharSet
  | .char c => .single c
  | .set s => s
  | .place _ => .empty

/-- The character after a dash that tells what the dash means. Free space is passed over, but only
the sign of a comment and not its text. -/
def afterDash (m : Modes) (s : List Char) : Option Char :=
  if !m.spaced then s.head?
  else
    let shown := match s.dropWhile Text.isBlank with
      | '#' :: t => t.dropWhile Text.isBlank
      | t => t
    shown.head?.or s.head?

/-- Reads a member or a range of a class. A dash before the closing bracket, or before another
dash, does not make a range. -/
def readMembers (m : Modes) (s : List Char) : Except PatternError (CharSet × List Char) :=
  match readMember m s with
  | .error e => .error e
  | .ok (first, rest) =>
    match m.skip rest with
    | '-' :: tail =>
      if (afterDash m tail).any fun c => c == ']' || c == '-' then
        .ok (memberSet first, '-' :: tail)
      else
        match first, readMember m (m.skip tail) with
        | _, .error e => .error e
        | .char a, .ok (.char b, after) =>
          if a ≤ b then .ok (.range a b, after) else .error .invalidRange
        | _, .ok _ => .error .invalidRange
    | rest => .ok (memberSet first, rest)

/-! ## Brackets -/

/-- The dashes at the start of a class, each of which is a member, and what follows them. -/
def readDashes (m : Modes) (b : Bracket) : Nat → List Char → Bracket × List Char
  | n + 1, '-' :: s => readDashes m (b.addSet (.single '-')) n (m.skip s)
  | _, s => (b, s)

/-- Reads the start of a class after its opening bracket. Dashes, or else a closing bracket, that
stand first are members. -/
def readBracket (m : Modes) (s : List Char) : Bracket × List Char :=
  let (negated, s) := match m.skip s with
    | '^' :: s => (true, m.skip s)
    | s => (false, s)
  match readDashes m { negated } s.length s with
  | (b, ']' :: rest) =>
    if b.members.count == 0 then (b.addSet (.single ']'), m.skip rest) else (b, ']' :: rest)
  | r => r

/-- Reads the rest of a class, with the brackets around the open one; `fuel` bounds the number of
steps, each of which reads a character or more. -/
def readClassFrom (m : Modes) :
    (fuel : Nat) → List Bracket → Bracket → List Char → Except PatternError (ClassSet × List Char)
  | 0, _, _, _ => .error .unclosedClass
  | fuel + 1, outer, b, s =>
    match m.skip s with
    | [] => .error .unclosedClass
    | '[' :: rest =>
      match asciiClass? rest with
      | some (negated, set, rest) =>
        match m.negate negated (m.fold set) with
        | .error e => .error e
        | .ok set => readClassFrom m fuel outer (b.addSet set) rest
      | none =>
        let (inner, rest) := readBracket m rest
        readClassFrom m fuel (b :: outer) inner rest
    | ']' :: rest =>
      match b.close m, outer with
      | .error e, _ => .error e
      | .ok c, [] => .ok (c, rest)
      | .ok c, o :: outer => readClassFrom m fuel outer (o.add c) rest
    | '&' :: '&' :: rest => readClassFrom m fuel outer (b.operate m .inter) rest
    | '-' :: '-' :: rest => readClassFrom m fuel outer (b.operate m .diff) rest
    | '~' :: '~' :: rest => readClassFrom m fuel outer (b.operate m .symmDiff) rest
    | s =>
      match readMembers m s with
      | .error e => .error e
      | .ok (set, rest) =>
        if !m.unicode && !set.isAscii then .error .notAscii
        else readClassFrom m fuel outer (b.addSet set) rest

/-- Reads a class after its opening bracket. -/
def readClass (m : Modes) (s : List Char) : Except PatternError (ClassSet × List Char) :=
  let (b, rest) := readBracket m s
  readClassFrom m (s.length + 1) [] b rest

end Registrar.Pattern
