import Registrar.Proofs.YamlScalars
/-!
# Mappings that are written line by line

What the scanner does with one written line: it finds the key and its colon, opens a mapping if none stands at
that column, and finds the value (`run_key`, `run_value`, `run_entry`). Line by line it goes through a whole
mapping (`run_lines`) and through a document with a mapping under a name (`run_spots`).
-/
namespace Registrar.Yaml

open Spot

theorem atAnyMarker_of_ne {c : Char} (hdash : c ≠ '-') (hdot : c ≠ '.') {i l column : Nat} (s : List Spot) :
    atAnyMarker (⟨c, i, l, column⟩ :: s) = false := by
  match s with
  | [] | [_] => rfl
  | _ :: _ :: _ => simp [atAnyMarker, atMarker, hdash, hdot]

namespace Scanner

/-! ## Steps of the scanner -/

theorem closeTo_of_le {column indent : Int} (h : indent ≤ column) (tokens : Array Token) (outer : List Int) :
    closeTo column indent tokens outer = (indent, outer, tokens) := by
  cases outer with
  | nil => rfl
  | cons i outer => rw [closeTo, if_neg (Int.not_lt.2 h)]

theorem unindent_of_le {s : Scanner} {column : Int} (h : s.indent ≤ column) : s.unindent column = s := by
  unfold unindent
  split
  · rfl
  · rw [closeTo_of_le h]

theorem skipBlanks_spaces {pads : List Spot} (hpads : ∀ x ∈ pads, x.char = ' ') (allowed : Bool)
    (r : List Spot) : skipBlanks false false allowed (pads ++ r) = skipBlanks false false allowed r := by
  induction pads with
  | nil => rfl
  | cons x pads ih =>
    obtain ⟨hx, hpads⟩ := List.forall_mem_cons.1 hpads
    have hbreak : x.isBreak = false := by rw [Spot.isBreak, hx]; decide
    simp [skipBlanks, hbreak, hx, ih hpads]

theorem skipBlanks_lineEnd {x : Spot} (hx : x.char = '\n') (allowed : Bool) (r : List Spot) :
    skipBlanks false false allowed (x :: r) = skipBlanks false false true r := by
  have hbreak : x.isBreak = true := by rw [Spot.isBreak, hx]; decide
  rw [skipBlanks, if_pos hbreak, Bool.not_false, Bool.or_true]

theorem skipBlanks_of_ascii {c : Char} (hc : IsAscii c) (hspace : c ≠ ' ') (hhash : c ≠ '#') (allowed : Bool)
    (i l column : Nat) (r : List Spot) :
    skipBlanks false false allowed (⟨c, i, l, column⟩ :: r) = (⟨c, i, l, column⟩ :: r, allowed) := by
  have hbreak : Spot.isBreak ⟨c, i, l, column⟩ = false := hc.isBreak
  have htab : c ≠ '\t' := hc.ne_of_lt (by decide)
  have hmark : c ≠ '\ufeff' := hc.ne_of_gt (by decide)
  simp [skipBlanks, hbreak, hspace, hhash, htab, hmark]

/-- Outside of braces, a text that can be written plain starts a plain scalar. -/
theorem next_plain {s : Scanner} (hflow : s.inFlow = false) {d : Char} {cs : List Char}
    (h : IsPlain (d :: cs)) (i l : Nat) {c : Nat} (hc : 0 < c ∨ (d ≠ '-' ∧ d ≠ '.')) (r : List Spot)
    (hrest : s.rest = ⟨d, i, l, c⟩ :: (placeFrom (i + 1) l (c + 1) cs ++ r)) :
    s.next ⟨d, i, l, c⟩ (placeFrom (i + 1) l (c + 1) cs ++ r) = s.plainScalar ⟨d, i, l, c⟩ := by
  have hd : IsAscii d := h.ascii d List.mem_cons_self
  have hmarks := h.no_leading_mark
  rw [hasLeadingMark, Bool.or_eq_false_iff] at hmarks
  obtain ⟨hmark, hblank⟩ := hmarks
  have hspace : d ≠ ' ' := fun he => h.head (he ▸ rfl)
  -- a question mark, a colon or a dash that starts the text has text behind it
  have hgap : d = '?' ∨ d = ':' ∨ d = '-' → atGap (placeFrom (i + 1) l (c + 1) cs ++ r) = false := by
    intro hd
    have hahead : blankAhead cs = false := by
      rcases hd with rfl | rfl | rfl <;> simpa using hblank
    have hne : cs ≠ [] := by
      rintro rfl
      cases hahead
    rw [atGap_placeFrom (fun c hc => h.ascii c (List.mem_cons_of_mem _ hc)) hne, hahead]
  have hmarker : atAnyMarker s.rest = false := by
    rw [hrest]
    rcases hc with hpos | ⟨hdash, hdot⟩
    · exact atAnyMarker_of_pos hpos _
    · exact atAnyMarker_of_ne hdash hdot _
  rw [atAnyMarker, Bool.or_eq_false_iff] at hmarker
  have hmiss : ∀ m, m = '?' ∨ m = ':' ∨ m = '-' →
      ¬(d = m ∧ atGap (placeFrom (i + 1) l (c + 1) cs ++ r) = true) := by
    rintro m hm ⟨rfl, hblank⟩
    rw [hgap hm] at hblank
    cases hblank
  have hfree : d ≠ '#' ∧ d ≠ ',' ∧ d ≠ '[' ∧ d ≠ ']' ∧ d ≠ '\x7b' ∧ d ≠ '\x7d' ∧ d ≠ '&' ∧ d ≠ '*' ∧
      d ≠ '!' ∧ d ≠ '|' ∧ d ≠ '>' ∧ d ≠ '\'' ∧ d ≠ '"' ∧ d ≠ '%' ∧ d ≠ '@' ∧ d ≠ '\x60' := by
    simpa using hmark
  have hstarts : startsPlain false s.rest = true := by
    have hblank : Spot.isBlank ⟨d, i, l, c⟩ = false := by
      rw [Spot.isBlank, Spot.isPad, Spot.isBreak, hd.isPad, hd.isBreak, beq_eq_false_iff_ne.2 hspace]
      rfl
    rw [hrest, startsPlain]
    dsimp only
    split
    · rename_i hdash
      rw [hgap (.inr (.inr (beq_iff_eq.1 hdash)))]
      rfl
    · split
      · rename_i hmarks
        rw [Bool.or_eq_true, beq_iff_eq, beq_iff_eq] at hmarks
        rw [hgap (hmarks.imp_right .inl)]
        rfl
      · simp [hblank, isFlowMark, hfree]
  simp [next, hflow, hmarker, hstarts, hfree, hmiss '?', hmiss ':', hmiss '-']

/-! ## Keys -/

/-- A scanner outside of braces that remembers no key. -/
def idle (tokens : List Token) (indent : Int) (outer : List Int) (allowed : Bool) (rest : List Spot) : Scanner :=
  { rest, tokens := tokens.toArray, indent, outer, keyAllowed := allowed }

/-- Only what is left when blanks are skipped matters. -/
theorem run_skip (n : Nat) (tokens : List Token) (indent : Int) (outer : List Int) {rest rest' : List Spot}
    {allowed allowed' : Bool}
    (h : skipBlanks false false allowed rest = skipBlanks false false allowed' rest') :
    run n (idle tokens indent outer allowed rest) = run n (idle tokens indent outer allowed' rest') := by
  have hflow : ∀ rest allowed, inFlow (idle tokens indent outer allowed rest) = false := fun _ _ => rfl
  cases n with
  | zero => rfl
  | succ n =>
    rw [run, run, hflow, hflow]
    simp only [idle, h]

/-- One step at a character that is no blank, when nothing is closed or given up there. -/
theorem run_step (n : Nat) {s : Scanner} {x : Spot} {after : List Spot} (hrest : s.rest = x :: after)
    (hskip : skipBlanks s.inFlow false s.keyAllowed s.rest = (s.rest, s.keyAllowed))
    (hfar : s.dropFarKeys x = .ok s) (hcolumn : s.unindent x.column = s) :
    run (n + 1) s = (s.next x after).bind (run n) := by
  obtain ⟨rest, tokens, indent, outer, allowed, keys⟩ := s
  dsimp only at hrest hskip
  subst hrest
  rw [run, hskip]
  simp only [hfar, bind, Except.bind, hcolumn]

theorem run_idle (n : Nat) {tokens : List Token} {indent : Int} {outer : List Int} {allowed : Bool} {c : Char}
    (hc : IsAscii c) (hspace : c ≠ ' ') (hhash : c ≠ '#') {i l column : Nat} (hindent : indent ≤ column)
    (r : List Spot) :
    run (n + 1) (idle tokens indent outer allowed (⟨c, i, l, column⟩ :: r)) =
      ((idle tokens indent outer allowed (⟨c, i, l, column⟩ :: r)).next ⟨c, i, l, column⟩ r).bind (run n) := by
  refine run_step n rfl ?_ rfl (unindent_of_le hindent)
  exact skipBlanks_of_ascii hc hspace hhash allowed i l column r

theorem insertIdx_append (l m : List Token) (t : Token) : (l ++ m).insertIdx l.length t = l ++ t :: m := by
  induction l with
  | nil => rfl
  | cons u l ih => rw [List.cons_append, List.length_cons, List.insertIdx_succ_cons, ih, List.cons_append]

theorem insert_append (l m : List Token) (t : Token) :
    (l ++ m).toArray.insertIdxIfInBounds l.length t = (l ++ t :: m).toArray := by
  simp [insertIdx_append]

/-- What opens a mapping right of the present one. -/
def opening (indent : Int) (column : Nat) : List Token := if indent < column then [.mappingStart] else []

/-- The columns around a mapping that stands at a column. -/
def around (indent : Int) (column : Nat) (outer : List Int) : List Int :=
  if indent < column then indent :: outer else outer

/-- A scanner that has read a key and stands at its colon. -/
def afterKey (tokens : List Token) (indent : Int) (outer : List Int) (required : Bool) (key : List Char)
    (x : Spot) (rest : List Spot) : Scanner :=
  { rest, tokens := (tokens ++ [Token.scalar .plain (String.ofList key)]).toArray, indent, outer
    keyAllowed := false, keys := [some ⟨required, tokens.length, x⟩] }

theorem plainScalar_key {key : List Char} (hkey : IsPlain key) (hspace : ' ' ∉ key) (tokens : List Token)
    (indent : Int) (outer : List Int) {x y : Spot} (i l c : Nat) (hy : y.char = ':') {r : List Spot}
    (hr : atGap r = true) :
    (idle tokens indent outer true (placeFrom i l c key ++ y :: r)).plainScalar x =
      .ok (afterKey tokens indent outer (indent == x.column) key x (y :: r)) := by
  have hread := hkey.plain_key hspace (indent + 1) i l c hy hr
  have hnote : (idle tokens indent outer true (placeFrom i l c key ++ y :: r)).noteKey x =
      .ok { idle tokens indent outer true (placeFrom i l c key ++ y :: r) with
        keys := [some ⟨indent == x.column, tokens.length, x⟩] } := rfl
  rw [plainScalar, hnote]
  simp only [bind, Except.bind, inFlow, idle, List.length_singleton, Nat.lt_irrefl, decide_false, hread]
  simp [pure, Except.pure, push, afterKey]

/-- The colon after a key makes it a key, in a mapping that it opens if none stands at its column. -/
theorem run_colon (n : Nat) (tokens : List Token) {indent : Int} (outer : List Int) (required : Bool)
    {key : List Char} (hlength : key.length ≤ 1024) {d : Char} {i l c : Nat} (hindent : indent ≤ c)
    {r : List Spot} (hr : atGap r = true) :
    run (n + 1) (afterKey tokens indent outer required key ⟨d, i, l, c⟩
        (⟨':', i + key.length, l, c + key.length⟩ :: r)) =
      run n (idle (tokens ++ opening indent c ++ [.key, .scalar .plain (String.ofList key), .value]) c
        (around indent c outer) false r) := by
  generalize hs : afterKey tokens indent outer required key ⟨d, i, l, c⟩
    (⟨':', i + key.length, l, c + key.length⟩ :: r) = s
  have hrest : s.rest = ⟨':', i + key.length, l, c + key.length⟩ :: r := by rw [← hs]; rfl
  have hflow : s.inFlow = false := by rw [← hs]; rfl
  have hskip : skipBlanks s.inFlow false s.keyAllowed s.rest = (s.rest, s.keyAllowed) := by
    rw [hflow, hrest]
    exact skipBlanks_of_ascii ⟨by decide, by decide⟩ (by decide) (by decide) _ _ _ _ _
  have hfar : s.dropFarKeys ⟨':', i + key.length, l, c + key.length⟩ = .ok s := by
    have hnear : ¬i + 1024 < i + key.length := by omega
    rw [← hs]
    simp [dropFarKeys, afterKey, isTooFar, hnear]
  have hcolumn : s.unindent (c + key.length : Nat) = s := by
    refine unindent_of_le ?_
    rw [← hs]
    simp only [afterKey]
    omega
  have hnext : s.next ⟨':', i + key.length, l, c + key.length⟩ r =
      s.valueMark ⟨':', i + key.length, l, c + key.length⟩ := by
    have hmarker : atAnyMarker s.rest = false := hrest ▸ atAnyMarker_of_ne (by decide) (by decide) r
    rw [atAnyMarker, Bool.or_eq_false_iff] at hmarker
    simp [next, hmarker, hflow, hr]
  -- the marks of the key go before its text, to the place that was noted when the text was read
  have hvalue : s.valueMark ⟨':', i + key.length, l, c + key.length⟩ =
      .ok (idle (tokens ++ opening indent c ++ [.key, .scalar .plain (String.ofList key), .value]) c
        (around indent c outer) false r) := by
    rw [← hs]
    simp only [afterKey, valueMark, insert_append, indentTo, inFlow, opening, around]
    by_cases hlt : indent < c
    · simp [hlt, take, push, idle]
    · obtain rfl : indent = c := by omega
      simp [take, push, idle]
  rw [run_step n hrest hskip hfar hcolumn, hnext, hvalue]
  rfl

/-- A text without blanks that can be written plain and can stand before a colon. -/
@[mk_iff] structure IsKey (key : List Char) : Prop extends IsPlain key where
  no_blank : ' ' ∉ key
  no_marker : key.head? ≠ some '-' ∧ key.head? ≠ some '.'
  short : key.length ≤ 1024

instance (key : List Char) : Decidable (IsKey key) := decidable_of_iff' _ (isKey_iff key)

theorem run_key (n : Nat) {key : List Char} (hkey : IsKey key) (tokens : List Token) {indent : Int}
    (outer : List Int) (i l : Nat) {c : Nat} (hindent : indent ≤ c) {r : List Spot} (hr : atGap r = true) :
    run (n + 2) (idle tokens indent outer true
        (placeFrom i l c key ++ ⟨':', i + key.length, l, c + key.length⟩ :: r)) =
      run n (idle (tokens ++ opening indent c ++ [.key, .scalar .plain (String.ofList key), .value]) c
        (around indent c outer) false r) := by
  obtain ⟨d, cs, hcs, hd, hspace, hhash⟩ := hkey.exists_cons
  have hplain : IsPlain (d :: cs) := hcs ▸ hkey.toIsPlain
  have hmarker : d ≠ '-' ∧ d ≠ '.' := by
    have h := hkey.no_marker
    rw [hcs] at h
    exact ⟨fun he => h.1 (he ▸ rfl), fun he => h.2 (he ▸ rfl)⟩
  have hscalar := plainScalar_key hkey.toIsPlain hkey.no_blank tokens indent outer (x := ⟨d, i, l, c⟩)
    (y := ⟨':', i + key.length, l, c + key.length⟩) i l c rfl hr
  have hspots : placeFrom i l c key = ⟨d, i, l, c⟩ :: placeFrom (i + 1) l (c + 1) cs := by
    rw [hcs, placeFrom_cons hd.isBreak]
  rw [hspots, List.cons_append] at hscalar ⊢
  rw [run_idle (n + 1) hd hspace hhash hindent, next_plain rfl hplain i l (.inr hmarker) _ rfl, hscalar]
  exact run_colon n tokens outer _ hkey.short hindent hr

/-! ## Values -/

/-- What follows the end of a line: blanks, and then nothing or text that is not indented to a column. -/
def IsLineStart (least : Int) (more : List Spot) : Prop :=
  ∃ pads r, more = pads ++ r ∧ (∀ x ∈ pads, x.char = ' ') ∧
    ∀ x ∈ r.head?, x.isBreak = false ∧ x.isPad = false ∧ (x.column : Int) < least

theorem run_plain (n : Nat) {text : List Char} (h : IsPlain text) (tokens : List Token) {indent : Int}
    (outer : List Int) (i l : Nat) {c : Nat} (hindent : indent < c) (hpos : 0 < c) {x : Spot} (hx : x.char = '\n')
    {more : List Spot} (hmore : IsLineStart (indent + 1) more) :
    run (n + 1) (idle tokens indent outer false (placeFrom i l c text ++ x :: more)) =
      run n (idle (tokens ++ [.scalar .plain (String.ofList text)]) indent outer true more) := by
  obtain ⟨pads, r, rfl, hpads, hr⟩ := hmore
  have hread := h.plain_line i l (show indent + 1 ≤ c by omega) hpos hx hpads hr
  obtain ⟨d, cs, rfl, hd, hspace, hhash⟩ := h.exists_cons
  have hscalar : (idle tokens indent outer false (placeFrom i l c (d :: cs) ++ x :: (pads ++ r))).plainScalar
      ⟨d, i, l, c⟩ = .ok (idle (tokens ++ [.scalar .plain (String.ofList (d :: cs))]) indent outer true r) := by
    simp only [plainScalar, noteKey, idle, Bool.false_eq_true, if_false, bind, Except.bind, inFlow,
      List.length_singleton, Nat.lt_irrefl, decide_false, hread]
    simp [pure, Except.pure, push]
  rw [placeFrom_cons hd.isBreak, List.cons_append] at hscalar ⊢
  rw [run_idle n hd hspace hhash (Int.le_of_lt hindent), next_plain rfl h i l (.inl hpos) _ rfl, hscalar]
  exact run_skip n _ indent outer (skipBlanks_spaces hpads true r).symm

theorem run_single (n : Nat) {text : List Char} (h : IsAsciiText text) (tokens : List Token) {indent : Int}
    (outer : List Int) (k i l : Nat) {c : Nat} (hindent : indent < c) {x : Spot} (hx : x.char = '\n')
    (more : List Spot) :
    run (n + 1) (idle tokens indent outer false (placeFrom i l c (single k text) ++ x :: more)) =
      run n (idle (tokens ++ [.scalar .singleQuoted (String.ofList text)]) indent outer true more) := by
  have hquote : IsAscii '\'' := ⟨by decide, by decide⟩
  have hbody := (ascii_singleBody h k).isBreak
  have hspots : placeFrom i l c (single k text) ++ x :: more = ⟨'\'', i, l, c⟩ ::
      (placeFrom (i + 1) l (c + 1) (singleBody k false text) ++
        ⟨'\'', i + 1 + (singleBody k false text).length, l, c + 1 + (singleBody k false text).length⟩ ::
          x :: more) := by
    rw [single, List.append_assoc, List.singleton_append, placeFrom_cons hquote.isBreak,
      placeFrom_append hbody, placeFrom_cons hquote.isBreak]
    simp [placeFrom]
  have hread := singleQuoted_body h [] k (i + 1) l (c + 1) (x := ⟨'\'', i + 1 + (singleBody k false text).length, l,
    c + 1 + (singleBody k false text).length⟩) rfl hx more
  have hscalar : (idle tokens indent outer false (placeFrom i l c (single k text) ++ x :: more)).next
      ⟨'\'', i, l, c⟩ (placeFrom (i + 1) l (c + 1) (singleBody k false text) ++
        ⟨'\'', i + 1 + (singleBody k false text).length, l, c + 1 + (singleBody k false text).length⟩ ::
          x :: more) =
      .ok (idle (tokens ++ [.scalar .singleQuoted (String.ofList text)]) indent outer false (x :: more)) := by
    have hmarker : atAnyMarker (placeFrom i l c (single k text) ++ x :: more) = false :=
      hspots ▸ atAnyMarker_of_ne (by decide) (by decide) _
    rw [atAnyMarker, Bool.or_eq_false_iff] at hmarker
    simp [next, idle, hmarker, keyLike, noteKey, quoted, hread, bind, Except.bind, Except.map, pure,
      Except.pure, push]
  rw [hspots] at hscalar ⊢
  rw [run_idle n hquote (by decide) (by decide) (Int.le_of_lt hindent), hscalar]
  exact run_skip n _ indent outer (skipBlanks_lineEnd hx false more)

end Scanner

/-! ## Entries -/

/-- A style in which a text can be written. -/
inductive IsWritten : Style → List Char → Prop
  | plain {text : List Char} : IsPlain text → IsWritten .plain text
  | single {text : List Char} : IsAsciiText text → IsWritten .singleQuoted text

/-- Every text is written in the style that the writer chooses. -/
theorem isWritten_styleOf {s : String} (hs : IsAsciiText s.toList) : IsWritten (styleOf s) s.toList := by
  rcases styleOf_eq s with hstyle | hstyle
  · exact hstyle ▸ .plain (of_styleOf_eq_plain hs hstyle).2
  · exact hstyle ▸ .single hs

theorem IsWritten.ascii {style : Style} {text : List Char} (h : IsWritten style text) (width : Nat) :
    IsAsciiText (inStyle width text style) := by
  cases h with
  | plain h => exact h.ascii
  | single h =>
    intro c hc
    rcases List.mem_append.1 hc with hc | hc
    · rcases List.mem_append.1 hc with hc | hc
      · exact List.mem_singleton.1 hc ▸ ⟨by decide, by decide⟩
      · exact ascii_singleBody h _ c hc
    · exact List.mem_singleton.1 hc ▸ ⟨by decide, by decide⟩

/-- A key and a scalar. -/
structure Entry where
  key : List Char
  style : Style
  text : List Char

namespace Entry

structure Valid (e : Entry) : Prop where
  key : Scanner.IsKey e.key
  text : IsWritten e.style e.text

/-- The line of an entry in a mapping at a column. -/
def line (width : Nat) (e : Entry) : List Char :=
  List.replicate width ' ' ++ (e.key ++ ':' :: ' ' :: (inStyle width e.text e.style ++ ['\n']))

def tokens (e : Entry) : List Token :=
  [.key, .scalar .plain (String.ofList e.key), .value, .scalar e.style (String.ofList e.text)]

end Entry

theorem isBreak_replicate (n : Nat) : ∀ c ∈ List.replicate n ' ', isBreak c = false := by
  intro c hc
  rw [List.eq_of_mem_replicate hc]
  decide

theorem char_of_mem_placeFrom {s : List Char} {x : Spot} {i l c : Nat} (h : x ∈ placeFrom i l c s) :
    x.char ∈ s := by
  induction s generalizing i l c with
  | nil => cases h
  | cons d s ih =>
    rw [placeFrom] at h
    rcases List.mem_cons.1 h with rfl | h
    · exact List.mem_cons_self
    · split at h <;> exact List.mem_cons_of_mem _ (ih h)

theorem char_of_mem_spaces {n i l c : Nat} : ∀ x ∈ placeFrom i l c (List.replicate n ' '), x.char = ' ' :=
  fun _ hx => List.eq_of_mem_replicate (char_of_mem_placeFrom hx)

namespace Scanner

theorem run_value (n : Nat) {style : Style} {text : List Char} (h : IsWritten style text)
    (tokens : List Token) {indent : Int} (outer : List Int) (width i l : Nat) {c : Nat} (hindent : indent < c)
    (hpos : 0 < c) {x : Spot} (hx : x.char = '\n') {more : List Spot}
    (hmore : IsLineStart (indent + 1) more) :
    run (n + 1) (idle tokens indent outer false (placeFrom i l c (inStyle width text style) ++ x :: more)) =
      run n (idle (tokens ++ [.scalar style (String.ofList text)]) indent outer true more) := by
  cases h with
  | plain h => exact run_plain n h tokens outer i l hindent hpos hx hmore
  | single h => exact run_single n h tokens outer _ i l hindent hx more

theorem run_entry (n : Nat) {e : Entry} (he : e.Valid) (tokens : List Token) {indent : Int} (outer : List Int)
    (i l : Nat) {width : Nat} (hindent : indent ≤ width) (r : List Char)
    (hr : IsLineStart (width + 1) (placeFrom (i + (e.line width).length) (l + 1) 0 r)) :
    run (n + 3) (idle tokens indent outer true (placeFrom i l 0 (e.line width ++ r))) =
      run n (idle (tokens ++ opening indent width ++ e.tokens) width (around indent width outer) true
        (placeFrom (i + (e.line width).length) (l + 1) 0 r)) := by
  have hkey := he.key.ascii.isBreak
  have htext := (he.text.ascii width).isBreak
  have hcolon : isBreak ':' = false := by decide
  have hblank : isBreak ' ' = false := by decide
  have hspots : placeFrom i l 0 (e.line width ++ r) = placeFrom i l 0 (List.replicate width ' ') ++
      (placeFrom (i + width) l width e.key ++
        ⟨':', i + width + e.key.length, l, width + e.key.length⟩ ::
        ⟨' ', i + width + e.key.length + 1, l, width + e.key.length + 1⟩ ::
        (placeFrom (i + width + e.key.length + 2) l (width + e.key.length + 2)
            (inStyle width e.text e.style) ++
          ⟨'\n', i + width + e.key.length + 2 + (inStyle width e.text e.style).length, l,
            width + e.key.length + 2 + (inStyle width e.text e.style).length⟩ ::
          placeFrom (i + (e.line width).length) (l + 1) 0 r)) := by
    have hlength : i + (e.line width).length =
        i + width + e.key.length + 2 + (inStyle width e.text e.style).length + 1 := by
      simp [Entry.line]
      omega
    rw [hlength, Entry.line, List.append_assoc, placeFrom_append (isBreak_replicate width),
      List.length_replicate, Nat.zero_add, List.append_assoc, placeFrom_append hkey, List.cons_append,
      placeFrom_cons hcolon, List.cons_append, placeFrom_cons hblank, List.append_assoc,
      placeFrom_append htext, List.singleton_append, placeFrom_lineEnd]
  -- the indentation is skipped, two steps read the key and its colon, and after a blank the third reads the value
  rw [hspots, run_skip (n + 3) tokens indent outer (skipBlanks_spaces char_of_mem_spaces true _),
    run_key (n + 1) he.key tokens outer (i + width) l hindent rfl]
  have hspace : ∀ x ∈ [(⟨' ', i + width + e.key.length + 1, l, width + e.key.length + 1⟩ : Spot)],
      x.char = ' ' := by simp
  have hskip : ∀ r : List Spot, skipBlanks false false false
      (⟨' ', i + width + e.key.length + 1, l, width + e.key.length + 1⟩ :: r) =
        skipBlanks false false false r := skipBlanks_spaces hspace false
  rw [run_skip (n + 1) _ _ _ (hskip _), run_value n he.text _ _ width _ l (by omega) (by omega) rfl hr,
    List.append_assoc (tokens ++ opening indent width)]
  rfl

theorem isLineStart_spaces {key : List Char} (hkey : IsKey key) (width i l : Nat) (r : List Char) :
    IsLineStart (width + 1) (placeFrom i l 0 (List.replicate width ' ' ++ (key ++ r))) := by
  obtain ⟨d, cs, rfl, hd, hspace, -⟩ := hkey.exists_cons
  rw [placeFrom_append (isBreak_replicate width), List.length_replicate, Nat.zero_add, List.cons_append,
    placeFrom_cons hd.isBreak]
  refine ⟨_, _, rfl, char_of_mem_spaces, ?_⟩
  rintro x ⟨⟩
  exact ⟨hd.isBreak, hd.isPad.trans (beq_eq_false_iff_ne.2 hspace), by dsimp only; omega⟩

theorem isLineStart_lines {es : List Entry} (hes : ∀ e ∈ es, e.Valid) (width i l : Nat) :
    IsLineStart (width + 1) (placeFrom i l 0 (es.flatMap (Entry.line width))) := by
  cases es with
  | nil => exact ⟨[], [], rfl, by simp, by simp⟩
  | cons e es =>
    rw [List.flatMap_cons, Entry.line, List.append_assoc, List.append_assoc]
    exact isLineStart_spaces (hes e List.mem_cons_self).key width i l _

/-- The lines of a mapping give its entries. -/
theorem run_lines (n : Nat) {es : List Entry} (hes : ∀ e ∈ es, e.Valid) (tokens : List Token) (outer : List Int)
    (i l width : Nat) :
    ∃ i' l', run (n + 3 * es.length) (idle tokens width outer true
        (placeFrom i l 0 (es.flatMap (Entry.line width)))) =
      run n (idle (tokens ++ es.flatMap Entry.tokens) width outer true (placeFrom i' l' 0 [])) := by
  induction es generalizing tokens i l with
  | nil => exact ⟨i, l, by simp⟩
  | cons e es ih =>
    -- the mapping stands already at this column, so no line opens another one
    obtain ⟨he, hes⟩ := List.forall_mem_cons.1 hes
    obtain ⟨i', l', hrest⟩ := ih hes (tokens ++ e.tokens) (i + (e.line width).length) (l + 1)
    refine ⟨i', l', ?_⟩
    have hopen : opening (width : Int) width = [] := if_neg (Int.lt_irrefl _)
    have haround : around (width : Int) width outer = outer := if_neg (Int.lt_irrefl _)
    have hline := isLineStart_lines hes width (i + (e.line width).length) (l + 1)
    rw [List.flatMap_cons, List.flatMap_cons, List.length_cons, Nat.mul_succ, ← Nat.add_assoc,
      run_entry (n + 3 * es.length) he tokens outer i l (Int.le_refl _) _ hline, hopen, haround,
      List.append_nil, hrest, List.append_assoc]

end Scanner

/-! ## Documents -/

/-- An entry, and a mapping under a name. -/
structure Section where
  top : Entry
  name : List Char
  entries : List Entry

namespace Section

structure Valid (s : Section) : Prop where
  top : s.top.Valid
  name : Scanner.IsKey s.name
  entries : ∀ e ∈ s.entries, e.Valid
  nonempty : s.entries ≠ []

def text (s : Section) : List Char :=
  s.top.line 0 ++ (s.name ++ ':' :: '\n' :: s.entries.flatMap (Entry.line 2))

def tokens (s : Section) : List Token :=
  [.mappingStart] ++ s.top.tokens ++ [.key, .scalar .plain (String.ofList s.name), .value] ++
    [.mappingStart] ++ s.entries.flatMap Entry.tokens ++ [.mappingEnd, .mappingEnd]

/-- Every token takes up some of the text. -/
theorem steps_le_length {s : Section} (h : s.Valid) : 3 * s.entries.length + 6 ≤ s.text.length + 1 := by
  have hkey : ∀ {key : List Char}, Scanner.IsKey key → 0 < key.length :=
    fun hkey => List.length_pos_iff.2 hkey.nonempty
  have hlines : ∀ es : List Entry, 3 * es.length ≤ (es.flatMap (Entry.line 2)).length := by
    intro es
    induction es with
    | nil => exact Nat.le_refl _
    | cons e es ih =>
      simp only [List.flatMap_cons, List.length_append, List.length_cons, Entry.line, List.length_replicate]
      omega
  have htop := hkey h.top.key
  have hname := hkey h.name
  have hentries := hlines s.entries
  simp only [text, Entry.line, List.length_append, List.length_cons, List.length_nil, List.length_replicate]
  omega

open Scanner

/-- At the end of the text the two mappings are closed. -/
theorem run_end (n : Nat) (tokens : List Token) :
    run (n + 1) (idle tokens 2 [0, -1] true []) = .ok (tokens ++ [Token.mappingEnd, .mappingEnd]).toArray := by
  simp [run, idle, skipBlanks, apart, unindent, inFlow, closeTo, dropKey, Except.map]

theorem run_name (n : Nat) {name : List Char} (h : IsKey name) (tokens : List Token) (outer : List Int)
    (i l : Nat) (r : List Char) :
    run (n + 2) (idle tokens 0 outer true (placeFrom i l 0 (name ++ ':' :: '\n' :: r))) =
      run n (idle (tokens ++ [.key, .scalar .plain (String.ofList name), .value]) 0 outer true
        (placeFrom (i + name.length + 2) (l + 1) 0 r)) := by
  have hcolon : isBreak ':' = false := by decide
  rw [placeFrom_append h.ascii.isBreak, placeFrom_cons hcolon, placeFrom_lineEnd,
    run_key n h tokens outer i l (Int.le_refl 0) rfl]
  have hopen : opening 0 0 = [] := rfl
  rw [hopen, List.append_nil]
  exact run_skip n _ 0 outer (skipBlanks_lineEnd rfl false _)

theorem run_spots {s : Section} (h : s.Valid) (n : Nat) :
    run (n + (3 * s.entries.length + 6)) { rest := placeFrom 0 0 0 s.text } = .ok s.tokens.toArray := by
  obtain ⟨top, name, entries⟩ := s
  obtain ⟨htop, hname, hentries, hne⟩ := h
  obtain ⟨e, es, rfl⟩ := List.exists_cons_of_ne_nil hne
  obtain ⟨he, hes⟩ := List.forall_mem_cons.1 hentries
  have hfuel : n + (3 * (e :: es).length + 6) = n + 1 + 3 * es.length + 3 + 2 + 3 := by
    rw [List.length_cons]
    omega
  dsimp only [text]
  -- the entry at the top opens the outer mapping, the first entry under the name opens the inner one
  rw [hfuel]
  refine (run_entry (n + 1 + 3 * es.length + 3 + 2) htop [] [] 0 0 (by decide) _
    (isLineStart_spaces hname 0 _ _ _)).trans ?_
  refine (run_name (n + 1 + 3 * es.length + 3) hname _ _ _ _ _).trans ?_
  rw [List.flatMap_cons]
  refine (run_entry (n + 1 + 3 * es.length) he _ _ _ _ (by decide) _ (isLineStart_lines hes 2 _ _)).trans ?_
  obtain ⟨i, l, hlines⟩ := run_lines (n + 1) hes ([] ++ opening (-1) 0 ++ top.tokens ++
    [.key, .scalar .plain (String.ofList name), .value] ++ opening 0 2 ++ e.tokens) [0, -1] _ _ 2
  refine hlines.trans ?_
  refine (run_end n _).trans ?_
  simp [tokens, opening]

end Section
end Registrar.Yaml
