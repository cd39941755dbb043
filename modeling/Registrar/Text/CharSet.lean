import Registrar.Text.Basic
/-!
# Sets of characters

A set of characters is a list of ranges of code points, in increasing order and with a gap between
any two. The operations of sets keep this form. What a set contains after an operation is stated
beside it: `contains_add`, `contains_union`, `contains_complement`, `contains_inter` and
`contains_diff`. Large sets are written as tables of hexadecimal text.
-/
namespace Registrar

/-- A closed range of code points. -/
abbrev CodeRange := Nat × Nat

namespace Text

/-- Whether some range holds `n`. -/
def inRanges (rs : List CodeRange) (n : Nat) : Bool :=
  rs.any fun r => r.1 ≤ n && n ≤ r.2

/-- The ranges start at `n` or later, none is empty, and there is a gap between any two. -/
def Ordered (n : Nat) : List CodeRange → Prop
  | [] => True
  | r :: rs => n ≤ r.1 ∧ r.1 ≤ r.2 ∧ Ordered (r.2 + 2) rs

theorem Ordered.mono {m n : Nat} (hm : m ≤ n) : ∀ {rs}, Ordered n rs → Ordered m rs
  | [], _ => trivial
  | _ :: _, ⟨h, hr, ht⟩ => ⟨Nat.le_trans hm h, hr, ht⟩

/-- Adds a range, and joins it with the ranges that it meets or touches. -/
def insertRange (r : CodeRange) : List CodeRange → List CodeRange
  | [] => [r]
  | q :: qs =>
    if r.2 + 1 < q.1 then r :: q :: qs
    else if q.2 + 1 < r.1 then q :: insertRange r qs
    else insertRange (min r.1 q.1, max r.2 q.2) qs

theorem Ordered.insertRange {n : Nat} {rs : List CodeRange} {r : CodeRange} (hn : n ≤ r.1)
    (hr : r.1 ≤ r.2) (h : Ordered n rs) : Ordered n (insertRange r rs) := by
  induction rs generalizing n r with
  | nil => exact ⟨hn, hr, trivial⟩
  | cons q qs ih =>
    obtain ⟨hq, hqq, ht⟩ := h
    unfold Text.insertRange
    split
    · exact ⟨hn, hr, by omega, hqq, ht⟩
    · split
      · exact ⟨hq, hqq, ih (by omega) hr ht⟩
      · exact ih (by simp; omega) (by simp; omega) (ht.mono (by omega))

theorem inRanges_insertRange {n : Nat} {rs : List CodeRange} {r : CodeRange} (hr : r.1 ≤ r.2)
    (h : Ordered n rs) (m : Nat) :
    inRanges (insertRange r rs) m = (decide (r.1 ≤ m ∧ m ≤ r.2) || inRanges rs m) := by
  induction rs generalizing n r with
  | nil => simp [insertRange, inRanges, Bool.decide_and]
  | cons q qs ih =>
    obtain ⟨hq, hqq, ht⟩ := h
    unfold insertRange
    split
    · simp [inRanges, Bool.decide_and]
    · split
      · have := ih hr ht
        simp only [inRanges, List.any_cons] at this ⊢
        rw [this, Bool.or_left_comm]
      · rw [ih (by simp; omega) ht]
        simp only [inRanges, List.any_cons]
        rw [← Bool.or_assoc]
        congr 1
        rw [Bool.eq_iff_iff]
        simp
        omega

theorem le_of_inRanges {n m : Nat} {rs : List CodeRange} (h : Ordered n rs)
    (hm : inRanges rs m = true) : n ≤ m := by
  induction rs generalizing n with
  | nil => simp [inRanges] at hm
  | cons r rs ih =>
    obtain ⟨hn, hr, ht⟩ := h
    simp only [inRanges, List.any_cons, Bool.or_eq_true, Bool.and_eq_true,
      decide_eq_true_eq] at hm
    rcases hm with hm | hm
    · omega
    · have := ih ht hm
      omega

/-- The last code point. -/
def lastCode : Nat := 0x10FFFF

/-- The ranges from `n` on that lie between the given ones. -/
def gapsFrom (n : Nat) : List CodeRange → List CodeRange
  | [] => if n ≤ lastCode then [(n, lastCode)] else []
  | r :: rs => if n < r.1 then (n, r.1 - 1) :: gapsFrom (r.2 + 1) rs else gapsFrom (r.2 + 1) rs

theorem Ordered.gapsFrom {n : Nat} {rs : List CodeRange} (h : Ordered n rs) :
    Ordered n (gapsFrom n rs) := by
  induction rs generalizing n with
  | nil =>
    unfold Text.gapsFrom
    split
    · exact ⟨Nat.le_refl _, by assumption, trivial⟩
    · trivial
  | cons r rs ih =>
    obtain ⟨hn, hr, ht⟩ := h
    have hg := ih (ht.mono (Nat.le_succ _))
    unfold Text.gapsFrom
    split
    · exact ⟨Nat.le_refl _, by omega, hg.mono (by omega)⟩
    · exact hg.mono (by omega)

theorem inRanges_gapsFrom {n m : Nat} {rs : List CodeRange} (h : Ordered n rs)
    (hm : m ≤ lastCode) : inRanges (gapsFrom n rs) m = (decide (n ≤ m) && !inRanges rs m) := by
  induction rs generalizing n with
  | nil =>
    unfold gapsFrom
    split
    · simp [inRanges, hm]
    · simp [inRanges]
      omega
  | cons r rs ih =>
    obtain ⟨hn, hr, ht⟩ := h
    have hg := ih (ht.mono (Nat.le_succ _))
    have hb : inRanges rs m = true → r.2 + 2 ≤ m := le_of_inRanges ht
    unfold gapsFrom
    split <;> rw [Bool.eq_iff_iff] <;> simp only [inRanges, List.any_cons] at hg hb ⊢ <;>
      simp only [hg, Bool.or_eq_true, Bool.and_eq_true, decide_eq_true_eq, Bool.not_eq_true',
        Bool.or_eq_false_iff, Bool.and_eq_false_iff, decide_eq_false_iff_not] <;>
      cases hv : rs.any (fun r => decide (r.1 ≤ m) && decide (m ≤ r.2)) <;> simp [hv] at hb ⊢ <;>
      omega

end Text

structure CharSet where
  ranges : List CodeRange
  ordered : Text.Ordered 0 ranges
deriving DecidableEq, Repr

namespace CharSet

def contains (s : CharSet) (c : Char) : Bool := Text.inRanges s.ranges c.toNat

/-! ## Making sets -/

def empty : CharSet := ⟨[], trivial⟩

def all : CharSet := ⟨[(0, Text.lastCode)], by simp [Text.Ordered]⟩

/-- Adds the characters of a range, of which there are none when its ends are in the wrong order. -/
def add (s : CharSet) (r : CodeRange) : CharSet :=
  if h : r.1 ≤ r.2 then
    ⟨Text.insertRange r s.ranges, Text.Ordered.insertRange (Nat.zero_le _) h s.ordered⟩
  else s

theorem contains_add (s : CharSet) (r : CodeRange) (c : Char) :
    (s.add r).contains c = (decide (r.1 ≤ c.toNat ∧ c.toNat ≤ r.2) || s.contains c) := by
  unfold add
  split
  · next h => exact Text.inRanges_insertRange h s.ordered c.toNat
  · rw [decide_eq_false (by omega), Bool.false_or]

def ofRanges (rs : List CodeRange) : CharSet := rs.foldr (fun r s => s.add r) empty

def range (first last : Char) : CharSet := ofRanges [(first.toNat, last.toNat)]

def single (c : Char) : CharSet := range c c

/-! ## Operations -/

def union (a b : CharSet) : CharSet := a.ranges.foldr (fun r s => s.add r) b

theorem contains_foldr_add (rs : List CodeRange) (s : CharSet) (c : Char) :
    (rs.foldr (fun r s => s.add r) s).contains c = (Text.inRanges rs c.toNat || s.contains c) := by
  induction rs with
  | nil => simp [Text.inRanges]
  | cons r rs ih =>
    rw [List.foldr_cons, contains_add, ih, ← Bool.or_assoc]
    simp [Text.inRanges, Bool.decide_and]

theorem contains_ofRanges (rs : List CodeRange) (c : Char) :
    (ofRanges rs).contains c = Text.inRanges rs c.toNat := by
  rw [ofRanges, contains_foldr_add]
  simp [contains, empty, Text.inRanges]

theorem contains_union (a b : CharSet) (c : Char) :
    (a.union b).contains c = (a.contains c || b.contains c) :=
  contains_foldr_add a.ranges b c

def complement (s : CharSet) : CharSet :=
  ⟨Text.gapsFrom 0 s.ranges, Text.Ordered.gapsFrom s.ordered⟩

theorem toNat_le_lastCode (c : Char) : c.toNat ≤ Text.lastCode := by
  have h := c.valid
  unfold UInt32.isValidChar Nat.isValidChar at h
  unfold Char.toNat Text.lastCode
  omega

theorem contains_complement (s : CharSet) (c : Char) :
    s.complement.contains c = !s.contains c := by
  rw [contains, complement, Text.inRanges_gapsFrom s.ordered (toNat_le_lastCode c)]
  simp [contains]

def inter (a b : CharSet) : CharSet := (a.complement.union b.complement).complement

theorem contains_inter (a b : CharSet) (c : Char) :
    (a.inter b).contains c = (a.contains c && b.contains c) := by
  simp [inter, contains_complement, contains_union]

/-- The characters of `a` that are not in `b`. -/
def diff (a b : CharSet) : CharSet := (a.complement.union b).complement

theorem contains_diff (a b : CharSet) (c : Char) :
    (a.diff b).contains c = (a.contains c && !b.contains c) := by
  simp [diff, contains_complement, contains_union]

/-- The characters of one of the sets and not of the other. -/
def symmDiff (a b : CharSet) : CharSet := (a.union b).diff (a.inter b)

def unions (ss : List CharSet) : CharSet := ss.foldl union empty

def isAscii (s : CharSet) : Bool := s.ranges.all fun r => r.2 < 0x80

/-! ## Tables -/

/-- A range of a table: a code point, two ends with a dash between them, or two ends with a slash
for every second code point. -/
def rangesOf (s : List Char) : List CodeRange :=
  let number (s : List Char) : Nat := (Text.hexNumber? s).getD 0
  match Text.splitOnce? '-' s, Text.splitOnce? '/' s with
  | some (a, b), _ => [(number a, number b)]
  | none, some (a, b) =>
    (List.range ((number b - number a) / 2 + 1)).map fun i =>
      (number a + 2 * i, number a + 2 * i)
  | none, none => [(number s, number s)]

/-- The set whose ranges stand in lines, with a space between two. -/
def ofTable (lines : List String) : CharSet :=
  ofRanges (lines.flatMap fun l => (Text.split ' ' l.toList).flatMap rangesOf)

end CharSet

/-- Sets in tables, each with its names. Names are in lower case and without separators. -/
abbrev SetTable := List (List String × List String)

namespace SetTable

/-- The set with a name. -/
def find? (t : SetTable) (name : String) : Option CharSet :=
  (List.find? (fun e => e.1.contains name) t).map fun e => CharSet.ofTable e.2

/-- The characters of the sets with the given names. -/
def collect (t : SetTable) (names : List String) : CharSet :=
  CharSet.unions (names.filterMap t.find?)

end SetTable
end Registrar
