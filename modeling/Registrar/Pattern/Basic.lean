import Registrar.Text.Word
/-!
# Patterns for file names

A pattern describes pieces of text. It matches a text when it describes some piece of it, so the
anchors are what ties a pattern to the ends. Matching follows a set of places through the pattern.
-/
namespace Registrar

/-- How a place stands to the words around it. -/
inductive WordEdge where
  /-- A word begins or ends here. -/
  | boundary
  /-- No word begins or ends here. -/
  | inside
  | start
  | stop
  /-- No word character stands before. -/
  | openStart
  /-- No word character stands after. -/
  | openStop
deriving DecidableEq, Repr

/-- A condition on a place in a text. -/
inductive Assertion where
  | textStart
  | textEnd
  /-- Lines end at a line feed or, with `crlf`, at a carriage return, a line feed or both. -/
  | lineStart (crlf : Bool)
  | lineEnd (crlf : Bool)
  /-- With `ascii`, only ASCII characters belong to words. -/
  | word (edge : WordEdge) (ascii : Bool)
deriving DecidableEq, Repr

inductive Pattern where
  | empty
  | char (set : CharSet)
  | place (p : Assertion)
  | seq (a b : Pattern)
  | alt (a b : Pattern)
  /-- At least `least` times, and at most `most` times if that is given. -/
  | repeated (a : Pattern) (least : Nat) (most : Option Nat)
  /-- A piece to be remembered. -/
  | captured (a : Pattern)
deriving DecidableEq, Repr

/-! ## Places -/

/-- Whether an edge lies between two characters, given which of them belong to words. -/
def WordEdge.lies (before after : Bool) : WordEdge → Bool
  | boundary => before != after
  | inside => before == after
  | start => !before && after
  | stop => before && !after
  | openStart => !before
  | openStop => !after

namespace Assertion

def wordAt (text : Array Char) (ascii : Bool) (i : Nat) : Bool :=
  text[i]?.any (if ascii then Text.asciiWordChars else Text.wordChars).contains

/-- Whether a place meets the condition. -/
def holds (text : Array Char) (i : Nat) : Assertion → Bool
  | textStart => i == 0
  | textEnd => i == text.size
  | lineStart crlf =>
    i == 0 || text[i - 1]? == some '\n' ||
      (crlf && text[i - 1]? == some '\r' && text[i]? != some '\n')
  | lineEnd crlf =>
    i == text.size || (crlf && text[i]? == some '\r') ||
      (text[i]? == some '\n' && !(crlf && i > 0 && text[i - 1]? == some '\r'))
  | word edge ascii => edge.lies (i > 0 && wordAt text ascii (i - 1)) (wordAt text ascii i)

end Assertion

namespace Pattern

/-! ## Matching -/

/-- Applies `f` to a set of places `n` times, or until it changes no more. -/
def exactly (f : List Nat → List Nat) : Nat → List Nat → List Nat
  | 0, ps => ps
  | n + 1, ps =>
    let qs := f ps
    if qs == ps then ps else exactly f n qs

/-- The places that at most `n` applications of `f` reach: those reached so far, and those that lead
on from the latest of them. -/
def upTo (f : List Nat → List Nat) : Nat → List Nat → List Nat → List Nat
  | 0, reached, _ => reached
  | n + 1, reached, latest =>
    let new := ((f latest).filter fun q => !reached.contains q).eraseDups
    if new.isEmpty then reached else upTo f n (reached ++ new) new

/-- The places where pieces end that start at one of the given places. A repetition without an
upper bound reaches no new place after as many rounds as the text has places. -/
def ends (text : Array Char) : Pattern → List Nat → List Nat
  | empty, ps => ps
  | char set, ps => (ps.filter fun i => text[i]?.any set.contains).map (· + 1)
  | place p, ps => ps.filter fun i => p.holds text i
  | seq a b, ps => ends text b (ends text a ps)
  | alt a b, ps => (ends text a ps ++ ends text b ps).eraseDups
  | repeated a least most, ps =>
    let more := match most with
      | some m => m - least
      | none => text.size + 1
    let first := exactly (fun qs => ends text a qs) least ps
    upTo (fun qs => ends text a qs) more first first
  | captured a, ps => ends text a ps

/-- Whether the pattern describes some piece of the text. -/
def isMatch (p : Pattern) (text : String) : Bool :=
  let s := text.toList.toArray
  !(ends s p (List.range (s.size + 1))).isEmpty

/-! ## Building -/

def sequence : List Pattern → Pattern
  | [] => empty
  | [p] => p
  | p :: ps => seq p (sequence ps)

/-- The set of a pattern that describes the single characters of a set. -/
def set? : Pattern → Option CharSet
  | char s => some s
  | _ => none

/-- One of the alternatives; without any, no piece is described. Sets of characters make one set. -/
def choice (ps : List Pattern) : Pattern :=
  match ps.mapM set? with
  | some sets => char (.unions sets)
  | none => branches ps
where
  branches : List Pattern → Pattern
    | [] => char .empty
    | [p] => p
    | p :: ps => alt p (branches ps)

/-- Whether the pattern describes empty pieces only. -/
def isEmptyOnly : Pattern → Bool
  | empty | place _ => true
  | char _ => false
  | seq a b | alt a b => a.isEmptyOnly && b.isEmptyOnly
  | repeated a _ most => most == some 0 || a.isEmptyOnly
  | captured a => a.isEmptyOnly

/-- Repeats a pattern. To repeat empty pieces more than once adds nothing. -/
def times (p : Pattern) (least : Nat) (most : Option Nat) : Pattern :=
  let (least, most) :=
    if p.isEmptyOnly then (min least 1, some (min (most.getD 1) 1)) else (least, most)
  if most == some 0 then empty
  else if least == 1 && most == some 1 then p
  else repeated p least most

end Pattern
end Registrar
