import Mathlib.Tactic.MkIffOfInductiveProp
import Registrar.Yaml.Node
import Registrar.Yaml.Writer
/-!
# Scalars that are written and read

A text of printable ASCII characters is written plain or in single quotes. A plain text is read to its end:
nothing in it ends it, and the line after it is not indented far enough to go on (`plain_text`,
`IsPlain.plain_line`). A text in single quotes is read up to the closing quote (`singleQuoted_body`).
-/
namespace Registrar.Yaml

/-! ## Printable characters -/

def IsAscii (c : Char) : Prop := 0x20 ≤ c.toNat ∧ c.toNat ≤ 0x7E

/-- A text of printable ASCII characters. -/
def IsAsciiText (s : List Char) : Prop := ∀ c ∈ s, IsAscii c

instance (c : Char) : Decidable (IsAscii c) := inferInstanceAs (Decidable (_ ∧ _))

instance (s : List Char) : Decidable (IsAsciiText s) := List.decidableBAll IsAscii s

namespace IsAscii
variable {c : Char}

theorem ne_of_lt (h : IsAscii c) {d : Char} (hd : d.toNat < 0x20) : c ≠ d := by
  rintro rfl
  exact Nat.not_lt.2 h.1 hd

theorem ne_of_gt (h : IsAscii c) {d : Char} (hd : 0x7E < d.toNat) : c ≠ d := by
  rintro rfl
  exact Nat.not_lt.2 h.2 hd

theorem isBreak (h : IsAscii c) : isBreak c = false := by
  simp only [Yaml.isBreak, Bool.or_eq_false_iff, beq_eq_false_iff_ne]
  exact ⟨⟨h.ne_of_lt (by decide), h.ne_of_gt (by decide)⟩, h.ne_of_gt (by decide)⟩

theorem isLineEnd (h : IsAscii c) : isLineEnd c = false := by
  simp only [Yaml.isLineEnd, Bool.or_eq_false_iff, beq_eq_false_iff_ne]
  exact ⟨⟨⟨⟨h.ne_of_lt (by decide), h.ne_of_lt (by decide)⟩, h.ne_of_gt (by decide)⟩,
    h.ne_of_gt (by decide)⟩, h.ne_of_gt (by decide)⟩

theorem isPad (h : IsAscii c) : isPad c = (c == ' ') := by
  have htab : (c == '\t') = false := beq_eq_false_iff_ne.2 (h.ne_of_lt (by decide))
  rw [Yaml.isPad, htab, Bool.or_false]

theorem isPrintable (h : IsAscii c) : isPrintable c = true := by
  simp [Yaml.isPrintable, h.1, h.2]

theorem isAllowed (h : IsAscii c) : isAllowed c = true := by
  simp [Yaml.isAllowed, h.1, h.2]

end IsAscii

/-! ## Places -/

namespace Spot

theorem placeFrom_append {s : List Char} (hs : ∀ c ∈ s, Yaml.isBreak c = false) (i l c : Nat) (r : List Char) :
    placeFrom i l c (s ++ r) = placeFrom i l c s ++ placeFrom (i + s.length) l (c + s.length) r := by
  induction s generalizing i c with
  | nil => rfl
  | cons d s ih =>
    obtain ⟨hd, hs⟩ := List.forall_mem_cons.1 hs
    simp only [List.cons_append, placeFrom, hd, Bool.false_eq_true, if_false, List.length_cons, ih hs]
    rw [Nat.add_right_comm i, Nat.add_right_comm c, Nat.add_assoc, Nat.add_assoc]

theorem placeFrom_cons {d : Char} (hd : Yaml.isBreak d = false) (i l c : Nat) (r : List Char) :
    placeFrom i l c (d :: r) = ⟨d, i, l, c⟩ :: placeFrom (i + 1) l (c + 1) r := by
  simp [placeFrom, hd]

theorem placeFrom_lineEnd (i l c : Nat) (r : List Char) :
    placeFrom i l c ('\n' :: r) = ⟨'\n', i, l, c⟩ :: placeFrom (i + 1) (l + 1) 0 r := rfl

theorem length_placeFrom (i l c : Nat) (s : List Char) : (placeFrom i l c s).length = s.length := by
  induction s generalizing i l c with
  | nil => rfl
  | cons d s ih =>
    rw [placeFrom, List.length_cons, List.length_cons]
    split <;> rw [ih]

end Spot

open Spot

theorem IsAsciiText.isBreak {s : List Char} (h : IsAsciiText s) : ∀ c ∈ s, isBreak c = false :=
  fun c hc => (h c hc).isBreak

/-- Whether a blank follows is seen alike by the writer and by the reader. -/
theorem atGap_placeFrom {s : List Char} (hs : IsAsciiText s) (hne : s ≠ []) (i l c : Nat) (r : List Spot) :
    atGap (placeFrom i l c s ++ r) = blankAhead s := by
  obtain ⟨d, s, rfl⟩ := List.exists_cons_of_ne_nil hne
  have hd : IsAscii d := hs d List.mem_cons_self
  rw [placeFrom_cons hd.isBreak, List.cons_append, atGap, blankAhead, Spot.isBlank, Spot.isPad, Spot.isBreak,
    hd.isPad, hd.isBreak, hd.isLineEnd, beq_eq_false_iff_ne.2 (hd.ne_of_lt (d := '\t') (by decide))]
  simp

theorem atAnyMarker_of_pos {c : Char} {i l column : Nat} (h : 0 < column) (s : List Spot) :
    atAnyMarker (⟨c, i, l, column⟩ :: s) = false := by
  have hcolumn : (column == 0) = false := beq_eq_false_iff_ne.2 (Nat.ne_of_gt h)
  match s with
  | [] | [_] => rfl
  | _ :: _ :: _ => simp [atAnyMarker, atMarker, hcolumn]

/-! ## Plain scalars -/

/-- A text that can be written plain. -/
@[mk_iff] structure IsPlain (s : List Char) : Prop where
  ascii : IsAsciiText s
  nonempty : s ≠ []
  head : s.head? ≠ some ' '
  last : s.getLast? ≠ some ' '
  no_leading_mark : hasLeadingMark s = false
  no_inner_mark : hasInnerMark false s = false

instance (s : List Char) : Decidable (IsPlain s) := decidable_of_iff' _ (isPlain_iff s)

/-- What starts a plain text is neither a blank nor a sign of a comment. -/
theorem IsPlain.exists_cons {s : List Char} (h : IsPlain s) :
    ∃ c cs, s = c :: cs ∧ IsAscii c ∧ c ≠ ' ' ∧ c ≠ '#' := by
  obtain ⟨c, cs, rfl⟩ := List.exists_cons_of_ne_nil h.nonempty
  refine ⟨c, cs, rfl, h.ascii c List.mem_cons_self, fun he => h.head (he ▸ rfl), ?_⟩
  rintro rfl
  cases h.no_leading_mark

theorem Reading.prepend_nil : Reading.prepend [] = id := rfl

/-- Nothing in a plain text ends it. What has been read before it, blanks `p`, belongs to it. -/
theorem plain_text {least : Int} {cs : List Char} (hascii : IsAsciiText cs) {p : List Char}
    (hp : cs = [] → p = []) (hlast : cs.getLast? ≠ some ' ') (hmark : hasInnerMark (!p.isEmpty) cs = false)
    (i l : Nat) {c : Nat} (hcolumn : (least ≤ c ∧ 0 < c) ∨ (p = [] ∧ ' ' ∉ cs)) (r : List Spot) :
    plain false least (.blanks p) (placeFrom i l c cs ++ r) =
      (plain false least (.blanks []) r).map (·.prepend (p ++ cs)) := by
  induction cs generalizing p i c with
  | nil =>
    rw [hp rfl, placeFrom, List.nil_append, List.nil_append, Reading.prepend_nil]
    cases plain false least (.blanks []) r <;> rfl
  | cons d cs ih =>
    obtain ⟨hd, hcs⟩ := List.forall_mem_cons.1 hascii
    rw [hasInnerMark, Bool.or_eq_false_iff, Bool.or_eq_false_iff] at hmark
    obtain ⟨⟨hcolon, hhash⟩, hinner⟩ := hmark
    have hlast' : cs.getLast? ≠ some ' ' := by
      cases cs with
      | nil => simp
      | cons e cs => simpa using hlast
    have hbreak : Spot.isBreak ⟨d, i, l, c⟩ = false := hd.isBreak
    have hpad : Spot.isPad ⟨d, i, l, c⟩ = (d == ' ') := hd.isPad
    have htab : (d == '\t') = false := beq_eq_false_iff_ne.2 (hd.ne_of_lt (by decide))
    rw [placeFrom_cons hd.isBreak, List.cons_append, plain, hbreak, hpad]
    by_cases hspace : d = ' '
    · -- a blank is kept until more text comes
      subst hspace
      have hne : cs ≠ [] := by
        rintro rfl
        exact hlast rfl
      have hfilled : (p ++ [' ']).isEmpty = false := by cases p <;> rfl
      have hcolumn' : least ≤ (c + 1 : Nat) ∧ 0 < c + 1 := by
        rcases hcolumn with ⟨hleast, hpos⟩ | ⟨-, hnot⟩
        · omega
        · exact absurd List.mem_cons_self hnot
      have hnext := ih hcs (p := p ++ [' ']) (fun h => absurd h hne) hlast' (by rw [hfilled]; exact hinner)
        (i + 1) (.inl hcolumn')
      simpa [Pending.pad] using hnext
    · have hspace' : (d == ' ') = false := beq_eq_false_iff_ne.2 hspace
      -- no text after blanks stands left of the column, at a marker, or after a sign of a comment
      have hgoes : (!(Pending.blanks p).isEmpty && ((!false && ((c : Nat) : Int) < least) ||
          atAnyMarker (⟨d, i, l, c⟩ :: (placeFrom (i + 1) l (c + 1) cs ++ r)) || d == '#')) = false := by
        cases p with
        | nil => rfl
        | cons e p =>
          obtain ⟨hleast, hpos⟩ : least ≤ c ∧ 0 < c := hcolumn.resolve_right fun h => by cases h.1
          have hhash' : (d == '#') = false := by simpa using hhash
          have hleft : ¬((c : Nat) : Int) < least := by omega
          simp [atAnyMarker_of_pos hpos, hhash', hleft]
      have hcolon' : endsPlain false d (placeFrom (i + 1) l (c + 1) cs ++ r) = false := by
        rw [endsPlain, Bool.false_and, Bool.or_false]
        cases cs with
        | nil =>
          rw [blankAhead, Bool.and_true] at hcolon
          rw [hcolon, Bool.false_and]
        | cons e cs => rwa [atGap_placeFrom hcs (List.cons_ne_nil e cs)]
      have hinner' : hasInnerMark false cs = false := by
        simpa [hspace', htab, hd.isLineEnd] using hinner
      have hnext := ih hcs (p := []) (fun _ => rfl) hlast' hinner' (i + 1) (c := c + 1) (by
        rcases hcolumn with ⟨hleast, hpos⟩ | ⟨-, hnot⟩
        · exact .inl (by omega)
        · exact .inr ⟨rfl, fun h => hnot (List.mem_cons_of_mem _ h)⟩)
      simp only [hspace', Bool.false_eq_true, if_false, hgoes, hcolon', misplacedColon, Bool.false_and, hnext]
      cases plain false least (.blanks []) r with
      | error e => rfl
      | ok reading => simp [Except.map, Reading.prepend, Pending.text]

/-- After the line of a plain scalar, the blanks of the next line are skipped up to text that is not indented
far enough. -/
theorem plain_blanks {least : Int} {pads : List Spot} (hpads : ∀ x ∈ pads, x.char = ' ') {r : List Spot}
    (hr : ∀ x ∈ r.head?, x.isBreak = false ∧ x.isPad = false ∧ (x.column : Int) < least)
    (first : Option Char) (more : List Char) :
    plain false least (.breaks first more) (pads ++ r) = .ok ⟨[], r, true⟩ := by
  induction pads with
  | nil =>
    cases r with
    | nil => rfl
    | cons x r =>
      obtain ⟨hbreak, hpad, hleft⟩ := hr x rfl
      simp [plain, hbreak, hpad, hleft, Pending.isEmpty, Pending.isBreaks]
  | cons x pads ih =>
    obtain ⟨hx, hpads⟩ := List.forall_mem_cons.1 hpads
    have hbreak : x.isBreak = false := by rw [Spot.isBreak, hx]; decide
    have hpad : x.isPad = true := by rw [Spot.isPad, hx]; decide
    have htab : (x.char == '\t') = false := by rw [hx]; decide
    simpa [plain, hbreak, hpad, htab, Pending.pad] using ih hpads

/-- A plain text is read to the end of its line. -/
theorem IsPlain.plain_line {s : List Char} (h : IsPlain s) {least : Int} (i l : Nat) {c : Nat}
    (hleast : least ≤ c) (hpos : 0 < c) {x : Spot} (hx : x.char = '\n') {pads : List Spot}
    (hpads : ∀ x ∈ pads, x.char = ' ') {r : List Spot}
    (hr : ∀ x ∈ r.head?, x.isBreak = false ∧ x.isPad = false ∧ (x.column : Int) < least) :
    plain false least (.blanks []) (placeFrom i l c s ++ x :: (pads ++ r)) = .ok ⟨s, r, true⟩ := by
  have hbreak : x.isBreak = true := by rw [Spot.isBreak, hx]; decide
  have hend : plain false least (.blanks []) (x :: (pads ++ r)) = .ok ⟨[], r, true⟩ := by
    rw [plain, hbreak, if_pos rfl]
    exact plain_blanks hpads hr _ _
  rw [plain_text h.ascii (fun _ => rfl) h.last h.no_inner_mark i l (.inl ⟨hleast, hpos⟩), hend]
  simp [Except.map, Reading.prepend]

/-- A plain text without blanks is read up to a colon. -/
theorem IsPlain.plain_key {s : List Char} (h : IsPlain s) (hspace : ' ' ∉ s) (least : Int) (i l c : Nat)
    {x : Spot} (hx : x.char = ':') {r : List Spot} (hr : atGap r = true) :
    plain false least (.blanks []) (placeFrom i l c s ++ x :: r) = .ok ⟨s, x :: r, false⟩ := by
  have hbreak : x.isBreak = false := by rw [Spot.isBreak, hx]; decide
  have hpad : x.isPad = false := by rw [Spot.isPad, hx]; decide
  have hend : plain false least (.blanks []) (x :: r) = .ok ⟨[], x :: r, false⟩ := by
    simp [plain, hbreak, hpad, hx, hr, Pending.isEmpty, Pending.isBreaks, misplacedColon, endsPlain]
  rw [plain_text h.ascii (fun _ => rfl) h.last h.no_inner_mark i l (.inr ⟨rfl, hspace⟩), hend]
  simp [Except.map, Reading.prepend]

/-! ## Quoted scalars -/

/-- Without line ends, only quotes are written in another way. -/
theorem singleBody_eq {s : List Char} (hs : IsAsciiText s) (indent : Nat) :
    singleBody indent false s = s.flatMap fun c => if c == '\'' then ['\'', '\''] else [c] := by
  induction s with
  | nil => rfl
  | cons c s ih =>
    obtain ⟨hc, hs⟩ := List.forall_mem_cons.1 hs
    rw [singleBody, hc.isLineEnd, List.flatMap_cons, ← ih hs]
    rfl

theorem ascii_singleBody {s : List Char} (hs : IsAsciiText s) (indent : Nat) :
    IsAsciiText (singleBody indent false s) := by
  rw [singleBody_eq hs]
  intro c hc
  obtain ⟨d, hd, hc⟩ := List.mem_flatMap.1 hc
  split at hc
  · have hquote : c = '\'' := by simpa using hc
    subst hquote
    exact ⟨by decide, by decide⟩
  · exact List.mem_singleton.1 hc ▸ hs d hd

/-- A text in single quotes is read up to the closing quote. -/
theorem singleQuoted_body {s : List Char} (hs : IsAsciiText s) (p : List Char) (indent i l c : Nat)
    {x y : Spot} (hx : x.char = '\'') (hy : y.char = '\n') (r : List Spot) :
    singleQuoted (.blanks p) (placeFrom i l c (singleBody indent false s) ++ x :: y :: r) =
      .ok ⟨p ++ s, y :: r, false⟩ := by
  rw [singleBody_eq hs]
  induction s generalizing p i c with
  | nil =>
    have hbreak : x.isBreak = false := by rw [Spot.isBreak, hx]; decide
    have hpad : x.isPad = false := by rw [Spot.isPad, hx]; decide
    simp [placeFrom, singleQuoted, hbreak, hpad, hx, hy, Pending.isBreaks, Pending.text]
  | cons d s ih =>
    obtain ⟨hd, hrest⟩ := List.forall_mem_cons.1 hs
    have hbreak : ∀ i c, Spot.isBreak ⟨d, i, l, c⟩ = false := fun _ _ => hd.isBreak
    have hpad : ∀ i c, Spot.isPad ⟨d, i, l, c⟩ = (d == ' ') := fun _ _ => hd.isPad
    rw [List.flatMap_cons]
    by_cases hquote : d = '\''
    · subst hquote
      have hnext := ih hrest [] (i + 2) (c + 2)
      rw [beq_self_eq_true, if_pos rfl, List.cons_append, List.singleton_append, placeFrom_cons hd.isBreak,
        placeFrom_cons hd.isBreak, List.cons_append, List.cons_append, singleQuoted, hbreak, hpad, hnext]
      simp [Pending.isBreaks, Except.map, Reading.prepend, Pending.text]
    · have hquote' : (d == '\'') = false := beq_eq_false_iff_ne.2 hquote
      rw [hquote', if_neg (by decide), List.singleton_append, placeFrom_cons hd.isBreak, List.cons_append]
      -- the closing quote is still to come
      obtain ⟨z, t, hmore⟩ := List.exists_cons_of_ne_nil
        (show placeFrom (i + 1) l (c + 1) (s.flatMap fun c => if c == '\'' then ['\'', '\''] else [c]) ++
          x :: y :: r ≠ [] by simp)
      have hnext := fun p => ih hrest p (i + 1) (c + 1)
      rw [hmore] at hnext ⊢
      rw [singleQuoted, hbreak, hpad]
      by_cases hspace : d = ' '
      · subst hspace
        simpa [Pending.pad] using hnext (p ++ [' '])
      · have hspace' : (d == ' ') = false := beq_eq_false_iff_ne.2 hspace
        simp only [hspace', hquote', Pending.isBreaks, Bool.false_and, Bool.false_eq_true, if_false, hnext]
        simp [Except.map, Reading.prepend, Pending.text]

/-! ## The choice of the writer -/

/-- A text that the writer leaves plain can be written plain. -/
theorem isPlain_of_plainAllowed {s : List Char} (hs : IsAsciiText s) (hne : s ≠ [])
    (h : plainAllowed s = true) : IsPlain s := by
  simp only [plainAllowed, hasMark, Bool.and_eq_true, bne_iff_ne, ne_eq, Bool.not_eq_true',
    Bool.or_eq_false_iff] at h
  obtain ⟨⟨⟨-, hhead⟩, hlast⟩, ⟨-, hleading⟩, hinner⟩ := h
  refine ⟨hs, hne, hhead, hlast, hleading, ?_⟩
  obtain ⟨c, s, rfl⟩ := List.exists_cons_of_ne_nil hne
  have hc : IsAscii c := hs c List.mem_cons_self
  have hspace : (c == ' ') = false := beq_eq_false_iff_ne.2 fun h => hhead (h ▸ rfl)
  have htab : (c == '\t') = false := beq_eq_false_iff_ne.2 (hc.ne_of_lt (by decide))
  have hcolon : (c == ':' && blankAhead s) = false := by
    rw [hasLeadingMark, Bool.or_eq_false_iff] at hleading
    cases hblank : blankAhead s with
    | false => rw [Bool.and_false]
    | true =>
      rw [hblank, Bool.and_true, Bool.or_eq_false_iff, Bool.or_eq_false_iff] at hleading
      rw [hleading.2.1.2, Bool.false_and]
  rw [List.drop_one, List.tail_cons] at hinner
  simpa [hasInnerMark, hcolon, hspace, htab, hc.isLineEnd] using hinner

/-- The style that the writer chooses for a text. -/
def styleOf (s : String) : Style :=
  if isAmbiguous s || !plainAllowed s.toList then .singleQuoted else .plain

theorem styleOf_eq (s : String) : styleOf s = .plain ∨ styleOf s = .singleQuoted := by
  unfold styleOf
  split
  · exact .inr rfl
  · exact .inl rfl

theorem not_hasNeighbours {s : List Char} (hs : IsAsciiText s) (p : Char → Bool) :
    hasNeighbours p isLineEnd s = false ∧ hasNeighbours isLineEnd p s = false := by
  induction s with
  | nil => exact ⟨rfl, rfl⟩
  | cons a s ih =>
    obtain ⟨ha, hs⟩ := List.forall_mem_cons.1 hs
    cases s with
    | nil => exact ⟨rfl, rfl⟩
    | cons b s =>
      have hb : IsAscii b := hs b List.mem_cons_self
      simp [hasNeighbours, ha.isLineEnd, hb.isLineEnd, ih hs]

theorem singleAllowed_of_ascii {s : List Char} (hs : IsAsciiText s) : singleAllowed s = true := by
  have hprintable : allPrintable s = true := List.all_eq_true.2 fun c hc => (hs c hc).isPrintable
  simp [singleAllowed, hprintable, not_hasNeighbours hs isSpace]

/-- A text with its style as it stands in a line. -/
def inStyle (indent : Nat) (s : List Char) : Style → List Char
  | .plain => s
  | _ => single (indent + 2) s

theorem scalarLine_eq {s : String} (hs : IsAsciiText s.toList) (indent : Nat) :
    scalarLine indent s = inStyle indent s.toList (styleOf s) ++ ['\n'] := by
  have hline : s.toList.contains '\n' = false := by
    rw [← Bool.not_eq_true, List.contains_iff_mem]
    exact fun h => (hs _ h).ne_of_lt (by decide) rfl
  simp only [scalarLine, hline, Bool.false_eq_true, if_false, singleAllowed_of_ascii hs, if_true, styleOf]
  split <;> rfl

/-- A text that is written plain is not null and can be written plain. -/
theorem of_styleOf_eq_plain {s : String} (hs : IsAsciiText s.toList) (h : styleOf s = .plain) :
    isNull s = false ∧ IsPlain s.toList := by
  unfold styleOf at h
  split at h
  · cases h
  · rename_i hplain
    simp only [isAmbiguous, Bool.or_eq_true, not_or, Bool.not_eq_true, Bool.not_eq_false'] at hplain
    obtain ⟨⟨⟨⟨⟨hnull, -⟩, -⟩, -⟩, -⟩, hallowed⟩ := hplain
    refine ⟨hnull, isPlain_of_plainAllowed hs ?_ hallowed⟩
    intro hempty
    have hs : s = "" := String.toList_inj.1 hempty
    subst hs
    cases hnull

end Registrar.Yaml
