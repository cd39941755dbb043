import Registrar.Pattern.Basic
/-!
# Sizes of patterns

A pattern is matched by an automaton that reads UTF-8 bytes. Its size in memory is bounded, which
bounds how often a pattern may repeat its parts. A state takes 32 bytes, and more for each of
several ways that lead on from it.
-/
namespace Registrar

namespace Text

/-- The forms of the code points from `lo` to `hi` as a leading digit and `n` digits of base 64.
Each form has a range for every digit, and all the numbers in those ranges belong to it. -/
def digitForms : Nat → Nat → Nat → List (List CodeRange)
  | 0, lo, hi => [[(lo, hi)]]
  | n + 1, lo, hi =>
    let m := Nat.pow 64 (n + 1)
    let a := lo / m
    let b := hi / m
    if a = b then (digitForms n (lo % m) (hi % m)).map ((a, a) :: ·)
    else
      let whole := lo % m == 0
      let full := hi % m == m - 1
      let first := if whole then [] else (digitForms n (lo % m) (m - 1)).map ((a, a) :: ·)
      let last := if full then [] else (digitForms n 0 (hi % m)).map ((b, b) :: ·)
      let c := if whole then a else a + 1
      let d := if full then b else b - 1
      let middle := if c ≤ d then [(c, d) :: List.replicate (n + 1) (0, 63)] else []
      first ++ middle ++ last

/-- The code points that take one, two, three or four bytes, without the surrogates: the number of
bytes after the first, and the first and last code point. -/
def utf8Planes : List (Nat × CodeRange) :=
  [(0, (0, 0x7F)), (1, (0x80, 0x7FF)), (2, (0x800, 0xD7FF)), (2, (0xE000, 0xFFFF)),
   (3, (0x10000, 0x10FFFF))]

/-- The forms that a range of code points has in UTF-8. -/
def utf8Forms (r : CodeRange) : List (List CodeRange) :=
  utf8Planes.flatMap fun (n, p) =>
    let lo := max r.1 p.1
    let hi := min r.2 p.2
    if lo ≤ hi then digitForms n lo hi else []

end Text

/-! ## Sets -/

/-- How many ranges a list has after those with which the list before it starts alike. -/
def newRanges : List CodeRange → List CodeRange → Nat
  | a :: as, b :: bs => if a = b then newRanges as bs else (b :: bs).length
  | _, bs => bs.length

/-- The number of different beginnings of forms in order. -/
def beginnings (before : List CodeRange) : List (List CodeRange) → Nat
  | [] => 0
  | f :: fs => newRanges before f + beginnings f fs

/-- The size of a set: one state leads on for the ranges of ASCII characters; for others there is a
state for each beginning of a form in UTF-8. -/
def CharSet.size (s : CharSet) : Nat :=
  match s.ranges with
  | [] => 32
  | [(a, b)] =>
    if a = b then 32 * (Char.ofNat a).utf8Size else several s
  | _ => several s
where
  several (s : CharSet) : Nat :=
    if s.isAscii then 64 + 8 * s.ranges.length
    else
      let forms := s.ranges.flatMap Text.utf8Forms
      64 + 4 * forms.length + 32 * beginnings [] forms

/-! ## Patterns -/

namespace Pattern

/-- The size of a pattern by itself or, with `option`, as one of several alternatives. A repetition
has a copy of its pattern for each time. -/
def sizeAs (option : Bool) : Pattern → Nat
  | alt a b => (if option then 0 else 64) + a.sizeAs true + b.sizeAs true
  | empty | place _ => plus 32
  | char s => plus s.size
  | seq a b => plus (a.sizeAs false + b.sizeAs false)
  | captured a => plus (64 + a.sizeAs false)
  | repeated a least none => plus (max least 1 * a.sizeAs false + 40)
  | repeated a least (some most) =>
    plus (least * a.sizeAs false +
      if most = least then 0 else (most - least) * (40 + a.sizeAs false) + 32)
where
  plus (n : Nat) : Nat := if option then 4 + n else n

def size (p : Pattern) : Nat := p.sizeAs false

/-- The largest size of a pattern: ten mebibytes. -/
def sizeLimit : Nat := 10 * 1024 * 1024

end Pattern
end Registrar
