import Registrar.Proofs.Paragraphs
/-!
# Raw strings under the layout pass

The values of the raw strings of a text, before and after the pass. Lines that start inside a raw
string stay as they are, but the line that opens one loses the blanks at its end, which belong to the
raw string. This is the only way in which a value changes (`rawStrings_reindent_iff`).
-/
namespace Registrar.Layout
open Text

/-! ## Reading raw strings -/

/-- A reader that collects the values of the raw strings of a text: what stands between the backquotes,
without carriage returns. -/
structure RawReader where
  mode : Mode := .code
  /-- What has been read of the raw string that is open. -/
  value : List Char := []
  found : List (List Char) := []
deriving DecidableEq, Repr

namespace RawReader

def next (r : RawReader) (c : Char) : RawReader :=
  if r.mode = .rawString then
    if c = '\x60' then { mode := .code, value := [], found := r.found ++ [r.value] }
    else if c = '\r' then r
    else { r with value := r.value ++ [c] }
  else { r with mode := r.mode.next c }

def run (r : RawReader) (s : List Char) : RawReader := s.foldl next r

theorem run_cons (r : RawReader) (c : Char) (s : List Char) : r.run (c :: s) = (r.next c).run s := rfl

theorem run_append (r : RawReader) (s t : List Char) : r.run (s ++ t) = (r.run s).run t :=
  List.foldl_append

theorem run_append_feed (r : RawReader) (l t : List Char) :
    r.run (l ++ '\n' :: t) = (r.run (l ++ ['\n'])).run t := by
  rw [List.append_cons, run_append]

theorem mode_next (r : RawReader) (c : Char) : (r.next c).mode = r.mode.next c := by
  rw [next]
  split_ifs with hraw hclose hreturn
  · rw [hraw, Mode.next, if_pos hclose]
  · rw [hraw, Mode.next, if_neg hclose]
  · rw [hraw, Mode.next, if_neg hclose]
  · rfl

/-- The reader is where the lexer is. -/
theorem mode_run {r : RawReader} {x : Lexer} (h : r.mode = x.mode) (s : List Char) :
    (r.run s).mode = (x.run s).mode := by
  induction s generalizing r x with
  | nil => exact h
  | cons c s ih => exact ih (by rw [mode_next, Lexer.mode_next, h])

/-- What has been found stays. -/
theorem found_run (r : RawReader) (s : List Char) : ∃ more, (r.run s).found = r.found ++ more := by
  induction s generalizing r with
  | nil => exact ⟨[], (List.append_nil _).symm⟩
  | cons c s ih =>
    obtain ⟨more, hmore⟩ := ih (r.next c)
    rw [run_cons, hmore, next]
    split_ifs
    · exact ⟨r.value :: more, by rw [List.append_assoc, List.singleton_append]⟩
    all_goals exact ⟨more, rfl⟩

/-- Inside a raw string all but carriage returns is kept. -/
theorem run_rawString {r : RawReader} (h : r.mode = .rawString) {s : List Char} (hs : '\x60' ∉ s) :
    r.run s = { r with value := r.value ++ s.filter (· ≠ '\r') } := by
  induction s generalizing r with
  | nil => simp [run]
  | cons c s ih =>
    rw [List.mem_cons, not_or] at hs
    rw [run_cons, next, if_pos h, if_neg (Ne.symm hs.1)]
    split_ifs with hreturn
    · rw [ih h hs.2, List.filter_cons_of_neg (by simpa using hreturn)]
    · have hrest := ih (r := { r with value := r.value ++ [c] }) h hs.2
      rw [hrest, List.filter_cons_of_pos (by simpa using hreturn), List.append_assoc,
        List.singleton_append]

/-- A line feed ends no raw string. -/
theorem found_run_feed (r : RawReader) (s : List Char) : (r.run (s ++ ['\n'])).found = (r.run s).found := by
  rw [run_append]
  show ((r.run s).next '\n').found = _
  rw [next, if_neg (by decide : ¬ '\n' = '\x60')]
  split_ifs <;> rfl

/-! ### Blanks -/

theorem not_mem_of_blank {b : List Char} (hb : Blank b) : '\x60' ∉ b :=
  fun h => absurd (hb _ h) (by decide)

/-- Blanks in code change nothing. -/
theorem run_blank {r : RawReader} (h : r.mode = .code) {b : List Char} (hb : Blank b) : r.run b = r := by
  induction b with
  | nil => rfl
  | cons c b ih =>
    have hnext : r.next c = r := by
      rw [next, h, if_neg (by decide), Mode.next, afterCode_of_blank (hb c List.mem_cons_self), ← h]
    rw [run_cons, hnext]
    exact ih fun d hd => hb d (List.mem_cons_of_mem _ hd)

theorem next_blank_feed {r : RawReader} {c : Char} (hc : isBlank c = true)
    (h : r.mode ≠ .rawString ∨ c = '\r') : (r.next c).next '\n' = r.next '\n' := by
  by_cases hraw : r.mode = .rawString
  · obtain rfl : c = '\r' := h.resolve_left (not_not.2 hraw)
    have hdropped : r.next '\r' = r := if_pos hraw
    rw [hdropped]
  · have hstays : r.mode.next c ≠ .rawString := next_ne_rawString hraw hc
    have hcr : r.next c = { r with mode := r.mode.next c } := if_neg hraw
    rw [hcr, next, if_neg hstays, next, if_neg hraw, mode_next_blank_feed _ hc]

/-- Blanks before a line feed change nothing outside raw strings. -/
theorem run_blank_feed {r : RawReader} (h : r.mode ≠ .rawString) {b : List Char} (hb : Blank b) :
    r.run (b ++ ['\n']) = r.next '\n' := by
  induction b generalizing r with
  | nil => rfl
  | cons c b ih =>
    have hc : isBlank c = true := hb c List.mem_cons_self
    have hstays : (r.next c).mode ≠ .rawString := by
      rw [mode_next]
      exact next_ne_rawString h hc
    rw [List.cons_append, run_cons, ih hstays fun d hd => hb d (List.mem_cons_of_mem _ hd),
      next_blank_feed hc (.inl h)]

/-- A carriage return before a line feed changes nothing. -/
theorem run_append_return (r : RawReader) (l : List Char) :
    r.run (l ++ ['\r'] ++ ['\n']) = r.run (l ++ ['\n']) := by
  rw [List.append_assoc, run_append, run_append r l]
  exact next_blank_feed (by decide) (.inr rfl)

theorem run_withoutReturn (r : RawReader) (l : List Char) :
    r.run (withoutReturn l ++ ['\n']) = r.run (l ++ ['\n']) := by
  rcases withoutReturn_spec l with h | h
  · rw [← h]
  · conv_rhs => rw [h, run_append_return]

end RawReader

/-- The values of the raw strings of a text. -/
def rawStrings (s : List Char) : List (List Char) := (({} : RawReader).run s).found

/-! ## Two readers -/

namespace RawReader

/-- Two readers inside the same raw string with different values. -/
structure Apart (r r' : RawReader) : Prop where
  mode : r.mode = .rawString
  mode' : r'.mode = .rawString
  found : r.found = r'.found
  value : r.value ≠ r'.value

/-- They stay apart as long as the raw string stays open. -/
theorem Apart.run {r r' : RawReader} (h : r.Apart r') {s : List Char} (hs : '\x60' ∉ s) :
    (r.run s).Apart (r'.run s) := by
  rw [run_rawString h.mode hs, run_rawString h.mode' hs]
  exact ⟨h.mode, h.mode', h.found, fun hv => h.value (List.append_cancel_right hv)⟩

/-- Once it is closed they have found different values. -/
theorem Apart.found_ne {r r' : RawReader} (h : r.Apart r') {s : List Char} (hs : '\x60' ∈ s)
    (t t' : List Char) : (r.run (s ++ t)).found ≠ (r'.run (s ++ t')).found := by
  obtain ⟨a, b, rfl, ha⟩ := List.eq_append_cons_of_mem hs
  have hclose : ∀ {q : RawReader}, q.mode = .rawString → ∀ u, ∃ more,
      (q.run (a ++ '\x60' :: b ++ u)).found = q.found ++ (q.run a).value :: more := by
    intro q hq u
    rw [List.append_assoc, List.cons_append, run_append, run_cons, run_rawString hq ha, next, if_pos hq,
      if_pos rfl]
    obtain ⟨more, hmore⟩ := found_run { found := q.found ++ [q.value ++ a.filter (· ≠ '\r')] } (b ++ u)
    exact ⟨more, by rw [hmore, List.append_assoc, List.singleton_append]⟩
  obtain ⟨more, hmore⟩ := hclose h.mode t
  obtain ⟨more', hmore'⟩ := hclose h.mode' t'
  rw [hmore, hmore', h.found]
  intro heq
  exact (h.run ha).value (List.cons.inj (List.append_cancel_left heq)).1

theorem Apart.line_ne {r r' : RawReader} (h : r.Apart r') {st : State} (hmode : r.mode = st.line.mode) :
    st.line ≠ .code := by
  intro hcode
  rw [h.mode, hcode] at hmode
  cases hmode

end RawReader

/-- The reader goes on with the pass. -/
theorem mode_run_line {st : State} {r : RawReader} (h : r.mode = st.line.mode) {l : List Char}
    (hl : '\n' ∉ l) : (r.run (l ++ ['\n'])).mode = (st.next (withoutReturn l)).line.mode := by
  rw [RawReader.mode_run (x := { mode := r.mode }) rfl]
  exact (next_withoutReturn_spec h hl).1

theorem unlines_lay_cons (st : State) (line : List Char) (ls : List (List Char)) :
    unlines (lay st (line :: ls)) = unlines (st.written line) ++ unlines (lay (st.next line) ls) := by
  rw [lay_cons, unlines_append]

theorem unlines_written {st : State} (h : st.line ≠ .code) (line : List Char) :
    unlines (st.written line) = line ++ ['\n'] := by
  simp [State.written, h, unlines]

/-- Inside a raw string the lines stay as they are: readers that are apart find different values as soon
as the raw string is closed. -/
theorem found_lay_of_apart {st : State} {r r' : RawReader} (hmode : r.mode = st.line.mode)
    (h : r.Apart r') (s : List Char) :
    (r.run s).found = (r'.run (unlines (lay st (lines s)))).found ↔ '\x60' ∉ s := by
  induction s using lines_induction generalizing st r r' with
  | last l hl =>
    rw [lines_of_not_mem hl]
    split_ifs with hempty
    · subst hempty
      exact iff_of_true h.found List.not_mem_nil
    · rw [unlines_lay_cons, unlines_written (h.line_ne hmode)]
      by_cases hclose : '\x60' ∈ l
      · have hne := h.found_ne hclose [] ('\n' :: unlines (lay (st.next l) []))
        rw [List.append_nil, List.append_cons] at hne
        exact iff_of_false hne (not_not.2 hclose)
      · refine iff_of_true ?_ hclose
        rw [RawReader.run_rawString h.mode hclose]
        have hclose' : '\x60' ∉ l ++ ['\n'] := by simp [hclose]
        rw [lay, unlines, List.flatMap_nil, List.append_nil, RawReader.run_rawString h.mode' hclose']
        exact h.found
  | line l rest hl ih =>
    rw [lines_append hl, unlines_lay_cons, unlines_written (h.line_ne hmode), r'.run_append,
      RawReader.run_withoutReturn, ← RawReader.run_append, List.append_assoc, List.singleton_append]
    by_cases hclose : '\x60' ∈ l
    · exact iff_of_false (h.found_ne hclose _ _) (by simp [hclose])
    · have hclose' : '\x60' ∉ l ++ ['\n'] := by simp [hclose]
      have hrest := ih (mode_run_line hmode hl) (h.run hclose')
      rw [r.run_append_feed l rest, r'.run_append_feed l, hrest]
      simp [hclose]

/-! ## Lines of code that lose blanks of a raw string -/

/-- Blanks other than carriage returns stand at the end of the line. -/
def EndsInBlanks (line : List Char) : Prop :=
  ∃ body b, line = body ++ b ∧ Blank b ∧ ∃ c ∈ b, c ≠ '\r'

/-- A line starts in code and ends in blanks inside a raw string that is closed later. -/
def TrimsRawString (x : Lexer) (s : List Char) : Prop :=
  ∃ pre ∈ lineStarts s, ∃ line rest, s = pre ++ line ++ '\n' :: rest ∧ '\n' ∉ line ∧
    (x.run pre).line = .code ∧ (x.run (pre ++ line)).mode = .rawString ∧ '\x60' ∈ rest ∧
    EndsInBlanks line

theorem endsInBlanks_append_iff {u b : List Char} (hu : Solid u.reverse) (hb : Blank b) :
    EndsInBlanks (u ++ b) ↔ ∃ c ∈ b, c ≠ '\r' := by
  constructor
  · rintro ⟨body, b', hsplit, hb', c, hc, hne⟩
    rcases List.append_eq_append_iff.1 hsplit with ⟨t, rfl, rfl⟩ | ⟨t, rfl, rfl⟩
    · exact ⟨c, List.mem_append_right _ hc, hne⟩
    · -- the blanks would begin before the end of the solid part
      rcases List.eq_nil_or_concat' t with rfl | ⟨t, d, rfl⟩
      · exact ⟨c, hc, hne⟩
      · have hd : isBlank d = false := hu d (body ++ t).reverse (by simp)
        rw [hb' d (by simp)] at hd
        cases hd
  · rintro ⟨c, hc, hne⟩
    exact ⟨u, b, rfl, hb, c, hc, hne⟩

theorem not_trimsRawString {l : List Char} (hl : '\n' ∉ l) (x : Lexer) : ¬ TrimsRawString x l := by
  rintro ⟨pre, -, line, rest, rfl, -⟩
  simp at hl

/-- The first line loses blanks, or a later one does. -/
theorem trimsRawString_append {l : List Char} (hl : '\n' ∉ l) (x : Lexer) (rest : List Char) :
    TrimsRawString x (l ++ '\n' :: rest) ↔
      (x.line = .code ∧ (x.run l).mode = .rawString ∧ '\x60' ∈ rest ∧ EndsInBlanks l) ∨
        TrimsRawString (x.run (l ++ ['\n'])) rest := by
  rw [TrimsRawString, lineStarts_append hl, List.exists_mem_cons_iff]
  refine or_congr ⟨?_, ?_⟩ ⟨?_, ?_⟩
  · rintro ⟨line, rest', hsplit, hline, h⟩
    obtain ⟨rfl, rfl⟩ := append_feed_inj hl hline hsplit
    exact h
  · exact fun h => ⟨l, rest, rfl, hl, h⟩
  · rintro ⟨pre, hpre, line, rest', hsplit, hline, h⟩
    obtain ⟨p, hp, rfl⟩ := List.mem_map.1 hpre
    rw [List.append_assoc, List.cons_append, x.run_append_feed l p, x.run_append_feed l (p ++ line)] at h
    refine ⟨p, hp, line, rest', ?_, hline, h⟩
    rw [List.append_assoc, List.append_assoc, List.cons_append] at hsplit
    rw [List.append_assoc]
    exact (List.cons.inj (List.append_cancel_left hsplit)).2
  · rintro ⟨p, hp, line, rest', rfl, hline, h⟩
    rw [← x.run_append_feed, ← x.run_append_feed, ← List.cons_append, ← List.append_assoc] at h
    exact ⟨l ++ '\n' :: p, List.mem_map_of_mem hp, line, rest', by simp, hline, h⟩

/-- The raw string that loses blanks is closed in the text. -/
theorem TrimsRawString.mem {x : Lexer} {s : List Char} (h : TrimsRawString x s) : '\x60' ∈ s := by
  obtain ⟨pre, -, line, rest, rfl, -, -, -, hclose, -⟩ := h
  simp [hclose]

/-! ## One line -/

/-- A blank opens and closes no raw string. -/
theorem RawReader.mode_run_blank_iff {r : RawReader} {b : List Char} (hb : Blank b) :
    (r.run b).mode = .rawString ↔ r.mode = .rawString := by
  induction b generalizing r with
  | nil => rfl
  | cons c b ih =>
    have hc : isBlank c = true := hb c List.mem_cons_self
    rw [RawReader.run_cons, ih fun d hd => hb d (List.mem_cons_of_mem _ hd), RawReader.mode_next]
    constructor
    · intro h
      by_contra hraw
      exact next_ne_rawString hraw hc h
    · intro h
      rw [h, Mode.next, if_neg (ne_of_blank hc).2.2.1]

/-- A line of code is read like the line without its blanks. -/
theorem run_written {st : State} {r : RawReader} (hcode : st.line = .code) (hr : r.mode = .code)
    {l w : List Char} (hw : l = w ∨ l = w ++ ['\r']) :
    ∃ u b, l = u ++ b ∧ Solid u.reverse ∧ Blank b ∧
      r.run (unlines (st.written w)) = (r.run u).next '\n' := by
  obtain ⟨a, b, ha, hb, hsplit⟩ := trim_spec w
  obtain ⟨b', hb', hl⟩ : ∃ b', Blank b' ∧ l = a ++ trim w ++ b' := by
    rcases hw with rfl | rfl
    · exact ⟨b, hb, hsplit⟩
    · exact ⟨b ++ ['\r'], hb.append blank_return, by rw [← List.append_assoc, ← hsplit]⟩
  have hfeed : r.next '\n' = r := RawReader.run_blank hr (b := ['\n']) (by decide)
  by_cases hempty : trim w = []
  · refine ⟨[], l, rfl, (fun _ _ h => nomatch h), ?_, ?_⟩
    · rw [hl, hempty, List.append_nil]
      exact ha.append hb'
    · have hnone : st.written w = [] := by simp [State.written, hcode, hempty]
      rw [hnone]
      exact hfeed.symm
  · refine ⟨a ++ trim w, b', hl, ?_, hb', ?_⟩
    · rw [List.reverse_append]
      exact (solid_trim w).2.append (by simpa using hempty) _
    · have htabs : Blank (indentation st.depth (trim w)) := blank_replicate_tab _
      have hwritten : unlines (st.written w) =
          (if st.blank then ['\n'] else []) ++ (indentation st.depth (trim w) ++ trim w ++ ['\n']) := by
        simp only [State.written, hcode, hempty, ne_eq, not_true_eq_false, if_false]
        split_ifs <;> simp [unlines]
      have hblank : r.run (if st.blank then ['\n'] else []) = r := by
        split_ifs
        · exact hfeed
        · rfl
      rw [hwritten, RawReader.run_append, hblank, RawReader.run_append, RawReader.run_append,
        RawReader.run_blank hr htabs, RawReader.run_append, RawReader.run_blank hr ha]
      rfl

/-- A line is read the same where it loses no blanks of a raw string. -/
theorem run_line {st : State} {x : Lexer} {r : RawReader} (hx : x.mode = st.line.mode)
    (hr : r.mode = x.mode) {l w : List Char} (hw : l = w ∨ l = w ++ ['\r'])
    (h : ¬ (x.line = .code ∧ (x.run l).mode = .rawString ∧ EndsInBlanks l)) :
    r.run (l ++ ['\n']) = r.run (unlines (st.written w)) := by
  by_cases hcode : st.line = .code
  · have hmode : x.mode = .code := by rw [hx, hcode]; rfl
    obtain ⟨u, b, rfl, hu, hb, hread⟩ := run_written hcode (hr.trans hmode) hw
    rw [hread, List.append_assoc, RawReader.run_append]
    by_cases hraw : (r.run u).mode = .rawString
    · have hopen : (x.run (u ++ b)).mode = .rawString := by
        rw [← RawReader.mode_run hr, RawReader.run_append]
        exact (RawReader.mode_run_blank_iff hb).2 hraw
      have hkept : ¬ ∃ c ∈ b, c ≠ '\r' := by
        intro hlost
        exact h ⟨by rw [Lexer.line, hmode]; rfl, hopen, (endsInBlanks_append_iff hu hb).2 hlost⟩
      have hreturns : b.filter (· ≠ '\r') = [] := by simpa using hkept
      rw [RawReader.run_append, RawReader.run_rawString hraw (RawReader.not_mem_of_blank hb), hreturns,
        List.append_nil]
      rfl
    · exact RawReader.run_blank_feed hraw hb
  · rw [unlines_written hcode]
    rcases hw with rfl | rfl
    · rfl
    · exact r.run_append_return w

/-- A line that loses blanks of a raw string brings the readers apart. -/
theorem run_line_apart {st : State} {x : Lexer} {r : RawReader} (hx : x.mode = st.line.mode)
    (hr : r.mode = x.mode) {l w : List Char} (hw : l = w ∨ l = w ++ ['\r']) (hcode : x.line = .code)
    (hraw : (x.run l).mode = .rawString) (hblank : EndsInBlanks l) :
    (r.run (l ++ ['\n'])).Apart (r.run (unlines (st.written w))) := by
  have hst : st.line = .code := by rw [← hcode, Lexer.line, hx, line_mode]
  obtain ⟨u, b, rfl, hu, hb, hread⟩ := run_written hst (by rw [hr, hx, hst]; rfl) hw
  obtain ⟨c, hc, hne⟩ := (endsInBlanks_append_iff hu hb).1 hblank
  have hopen : (r.run u).mode = .rawString := by
    rw [← RawReader.mode_run hr, RawReader.run_append] at hraw
    exact (RawReader.mode_run_blank_iff hb).1 hraw
  have hfeed : (r.run u).next '\n' = { r.run u with value := (r.run u).value ++ ['\n'] } :=
    RawReader.run_rawString hopen (s := ['\n']) (by decide)
  have hb' : '\x60' ∉ b ++ ['\n'] := by simp [RawReader.not_mem_of_blank hb]
  rw [hread, List.append_assoc, RawReader.run_append, RawReader.run_rawString hopen hb', hfeed]
  refine ⟨hopen, hopen, rfl, fun hvalue => ?_⟩
  have hnil : b.filter (· ≠ '\r') = [] := by
    have hcancel := List.append_cancel_left hvalue
    rw [List.filter_append] at hcancel
    simpa using hcancel
  exact absurd (List.filter_eq_nil_iff.1 hnil c hc) (by simpa using hne)

/-! ## All lines -/

/-- The pass keeps the raw strings of a text exactly if no line of code loses blanks of one. -/
theorem found_lay_iff {st : State} {x : Lexer} {r : RawReader} (hx : x.mode = st.line.mode)
    (hr : r.mode = x.mode) (s : List Char) :
    (r.run s).found = (r.run (unlines (lay st (lines s)))).found ↔ ¬ TrimsRawString x s := by
  induction s using lines_induction generalizing st x r with
  | last l hl =>
    refine iff_of_true ?_ (not_trimsRawString hl x)
    rw [lines_of_not_mem hl]
    split_ifs with hempty
    · subst hempty
      rfl
    · have hlay : unlines (lay st [l]) = unlines (st.written l) := by
        rw [lay_cons, lay, List.append_nil]
      rw [hlay, ← r.found_run_feed]
      by_cases h : x.line = .code ∧ (x.run l).mode = .rawString ∧ EndsInBlanks l
      · exact (run_line_apart hx hr (.inl rfl) h.1 h.2.1 h.2.2).found
      · rw [run_line hx hr (.inl rfl) h]
  | line l rest hl ih =>
    have hw := withoutReturn_spec l
    have hx' := (next_withoutReturn_spec hx hl).1
    have hr' : (r.run (l ++ ['\n'])).mode = (x.run (l ++ ['\n'])).mode := RawReader.mode_run hr _
    rw [lines_append hl, unlines_lay_cons, r.run_append_feed,
      r.run_append (unlines _), trimsRawString_append hl]
    by_cases h : x.line = .code ∧ (x.run l).mode = .rawString ∧ EndsInBlanks l
    · -- from here on the readers are apart
      have hapart := run_line_apart hx hr hw h.1 h.2.1 h.2.2
      rw [found_lay_of_apart (hr'.trans hx') hapart, not_or]
      exact ⟨fun hopen => ⟨fun hlost => hopen hlost.2.2.1, fun hlost => hopen hlost.mem⟩,
        fun hkept hclose => hkept.1 ⟨h.1, h.2.1, hclose, h.2.2⟩⟩
    · rw [← run_line hx hr hw h, ih hx' hr', not_or]
      exact ⟨fun hkept => ⟨fun hlost => h ⟨hlost.1, hlost.2.1, hlost.2.2.2⟩, hkept⟩, fun hkept => hkept.2⟩

/-- Laying a text out, and formatting it where it can be read as a source file, keeps the values of its
raw strings exactly if no line starts in code and ends in blanks inside a raw string that is closed
later. -/
theorem rawStrings_reindent_iff (source : String) :
    (rawStrings (reindent source).toList = rawStrings source.toList ↔
      ¬ TrimsRawString {} source.toList) ∧
    ∀ programs filename out, Formatter.format programs .builtin source filename = .ok out →
      (rawStrings out.toList = rawStrings source.toList ↔ ¬ TrimsRawString {} source.toList) := by
  have hout : rawStrings (reindent source).toList = rawStrings source.toList ↔
      ¬ TrimsRawString {} source.toList := by
    rw [reindent, onChars, String.toList_ofList, eq_comm]
    exact found_lay_iff rfl rfl source.toList
  refine ⟨hout, fun programs filename out hformat => ?_⟩
  obtain ⟨-, rfl⟩ := Formatter.format_builtin_eq_ok_iff.1 hformat
  exact hout

/-- The blank at the end of the first line of a raw string is lost. -/
theorem rawStrings_reindent_blank :
    let source := "package a\n\nvar x = `a \nb`\n"
    rawStrings source.toList = ["a \nb".toList] ∧
      rawStrings (reindent source).toList ≠ rawStrings source.toList := by
  refine ⟨by decide, fun hkept => (rawStrings_reindent_iff _).1.1 hkept ?_⟩
  exact ⟨"package a\n\n".toList, by decide, "var x = `a ".toList, "b`\n".toList, by decide, by decide,
    by decide, by decide, by decide, "var x = `a".toList, [' '], by decide, by decide, ' ', by decide, by decide⟩

end Registrar.Layout
