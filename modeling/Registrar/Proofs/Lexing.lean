import Registrar.Proofs.Lines
/-!
# Lexing a text in one pass

A lexer that reads a text character by character and looks at none twice: it knows whether it stands
in code, in a comment or in a literal, and how many brackets of code it has seen. A line feed ends
line comments and quoted literals. Scanning a line from the state that the lexer has at its start
gives the state and the brackets of the lexer at its end (`run_scanLine`), and blanks at the ends of a
line of code change nothing (`run_trim`).
-/
namespace Registrar.Layout
open Text

/-! ## The lexer -/

/-- Where a lexer stands between two characters. After a slash in code and a star in a comment the next
character decides. -/
inductive Mode where
  | code
  | slash
  | lineComment
  | blockComment
  | star
  | rawString
  | literal (quote : Char)
  | escaped (quote : Char)
deriving DecidableEq, Repr

namespace Mode

/-- The mode after a character of code. -/
def afterCode (c : Char) : Mode :=
  if c = '/' then slash
  else if c = '\x60' then rawString
  else if c = '"' ∨ c = '\'' then literal c
  else code

/-- The mode after one more character. -/
def next : Mode → Char → Mode
  | code, c => afterCode c
  | slash, c => if c = '/' then lineComment else if c = '*' then blockComment else afterCode c
  | lineComment, c => if c = '\n' then code else lineComment
  | blockComment, c => if c = '*' then star else blockComment
  | star, c => if c = '/' then code else if c = '*' then star else blockComment
  | rawString, c => if c = '\x60' then code else rawString
  | literal q, c =>
    if c = '\n' then code else if c = '\\' then escaped q else if c = q then code else literal q
  | escaped q, c => if c = '\n' then code else literal q

/-- Whether a bracket counts. -/
def isCode : Mode → Bool
  | code | slash => true
  | _ => false

/-- What a line starts in that follows a line feed. -/
def line : Mode → LineState
  | blockComment | star => .blockComment
  | rawString => .rawString
  | _ => .code

end Mode

/-- A lexer after some text: where it stands, and the brackets of code that were opened and closed. -/
structure Lexer where
  mode : Mode := .code
  opened : Nat := 0
  closed : Nat := 0
deriving DecidableEq, Repr

namespace Lexer

/-- The lexer after one more character. -/
def next (x : Lexer) (c : Char) : Lexer where
  mode := x.mode.next c
  opened := x.opened + if x.mode.isCode ∧ isOpening c then 1 else 0
  closed := x.closed + if x.mode.isCode ∧ isClosing c then 1 else 0

def run (x : Lexer) (s : List Char) : Lexer := s.foldl next x

def line (x : Lexer) : LineState := x.mode.line

/-- The brackets opened less those closed. -/
def depth (x : Lexer) : Int := x.opened - x.closed

theorem run_cons (x : Lexer) (c : Char) (s : List Char) : x.run (c :: s) = (x.next c).run s := rfl

theorem run_append (x : Lexer) (s t : List Char) : x.run (s ++ t) = (x.run s).run t :=
  List.foldl_append

theorem run_append_feed (x : Lexer) (l t : List Char) :
    x.run (l ++ '\n' :: t) = (x.run (l ++ ['\n'])).run t := by
  rw [List.append_cons, run_append]

theorem mode_next (x : Lexer) (c : Char) : (x.next c).mode = x.mode.next c := rfl

end Lexer

/-- The lexer after a text. -/
def lexed (s : List Char) : Lexer := ({} : Lexer).run s

/-! ## Single steps -/

def LineState.mode : LineState → Mode
  | code => .code
  | blockComment => .blockComment
  | rawString => .rawString

def ScanState.mode : ScanState → Mode
  | code => .code
  | blockComment => .blockComment
  | rawString => .rawString
  | literal q => .literal q
  | escaped q => .escaped q

theorem mode_scan (q : LineState) : q.scan.mode = q.mode := by cases q <;> rfl

theorem line_mode (q : LineState) : q.mode.line = q := by cases q <;> rfl

theorem line_scanMode (q : ScanState) : q.mode.line = q.endLine := by cases q <;> rfl

theorem depth_next_of_not_code {x : Lexer} (h : x.mode.isCode = false) (c : Char) :
    (x.next c).depth = x.depth := by
  simp [Lexer.next, Lexer.depth, h]

theorem depth_next_of_code {x : Lexer} (h : x.mode.isCode = true) (c : Char) :
    (x.next c).depth = x.depth + weight c := by
  simp only [Lexer.next, Lexer.depth, h, true_and, weight]
  by_cases ho : isOpening c = true
  · have hc : isClosing c = false := by
      simp only [isOpening, isClosing, Bool.or_eq_true, beq_iff_eq] at ho ⊢
      rcases ho with (rfl | rfl) | rfl <;> rfl
    simp only [ho, hc, if_true, Bool.false_eq_true, if_false]
    omega
  · by_cases hc : isClosing c = true
    · simp only [ho, hc, if_true, Bool.false_eq_true, if_false]
      omega
    · simp only [ho, hc, Bool.false_eq_true, if_false]
      omega

/-- At a line feed the lexer is at the start of a line. -/
theorem mode_next_feed (m : Mode) : m.next '\n' = m.line.mode := by
  cases m <;> rfl

theorem depth_next_of_code_of_weight {x : Lexer} {c : Char} (h : x.mode.isCode = true)
    (hc : weight c = 0) : (x.next c).depth = x.depth := by
  rw [depth_next_of_code h, hc, Int.add_zero]

theorem depth_next_feed (x : Lexer) : (x.next '\n').depth = x.depth := by
  cases h : x.mode.isCode with
  | false => exact depth_next_of_not_code h _
  | true => exact depth_next_of_code_of_weight h rfl

/-! ## Scanning a line -/

/-- From `x` on, the text ends in the line state and has the net brackets of the pair. -/
def Lexer.Gives (x : Lexer) (s : List Char) (r : LineState × Int) : Prop :=
  (x.run s).line = r.1 ∧ (x.run s).depth = x.depth + r.2

theorem Lexer.Gives.cons {x : Lexer} {c : Char} {s : List Char} {q : LineState} {w d : Int}
    (h : (x.next c).Gives s (q, d)) (hw : (x.next c).depth = x.depth + w) :
    x.Gives (c :: s) (q, w + d) := by
  obtain ⟨hline, hdepth⟩ := h
  exact ⟨hline, by rw [run_cons, hdepth, hw, Int.add_assoc]⟩

theorem Lexer.Gives.cons_of_eq {x : Lexer} {c : Char} {s : List Char} {r : LineState × Int}
    (h : (x.next c).Gives s r) (hw : (x.next c).depth = x.depth) : x.Gives (c :: s) r := by
  have hcons := h.cons (w := 0) (by rw [hw, Int.add_zero])
  rwa [Int.zero_add] at hcons

/-- A mode that waits for the next character is as good as another one where that character leads both
to the same. -/
theorem Lexer.Gives.waiting {x : Lexer} {m : Mode} {s : List Char} {r : LineState × Int}
    (h : ({ x with mode := m } : Lexer).Gives s r) (hline : x.mode.line = m.line)
    (hcode : x.mode.isCode = m.isCode) (hnext : ∀ c t, s = c :: t → x.mode.next c = m.next c) :
    x.Gives s r := by
  cases s with
  | nil => exact ⟨hline.trans h.1, h.2⟩
  | cons c t =>
    have hsame : x.next c = ({ x with mode := m } : Lexer).next c := by
      simp only [Lexer.next, hcode, hnext c t rfl]
    rw [Gives, run_cons, hsame]
    exact h

theorem run_lineComment {s : List Char} (h : '\n' ∉ s) {x : Lexer} (hx : x.mode = .lineComment) :
    x.Gives s (.code, 0) := by
  induction s generalizing x with
  | nil => exact ⟨by rw [Lexer.run, List.foldl_nil, Lexer.line, hx]; rfl, (Int.add_zero _).symm⟩
  | cons c s ih =>
    rw [List.mem_cons, not_or] at h
    refine (ih h.2 ?_).cons_of_eq (depth_next_of_not_code (by rw [hx]; rfl) c)
    rw [Lexer.mode_next, hx]
    exact if_neg (Ne.symm h.1)

theorem afterCode_eq {c : Char} (h : c ≠ '/') : Mode.afterCode c = (ScanState.ofCode c).mode := by
  rw [Mode.afterCode, if_neg h, ScanState.ofCode]
  by_cases hraw : c = '\x60'
  · simp [hraw, ScanState.mode]
  · by_cases hquote : c = '"' ∨ c = '\''
    · simp [hraw, hquote, ScanState.mode]
    · simp [hraw, hquote, ScanState.mode]

/-- Scanning a line gives what the lexer gives. -/
theorem run_scan (q : ScanState) {s : List Char} (h : '\n' ∉ s) {x : Lexer} (hx : x.mode = q.mode) :
    x.Gives s (scan q s) := by
  fun_induction scan q s generalizing x with
  | case1 q =>
    exact ⟨by rw [Lexer.run, List.foldl_nil, Lexer.line, hx, line_scanMode], (Int.add_zero _).symm⟩
  | case2 s ih =>
    -- the end of a block comment
    simp only [List.mem_cons, not_or] at h
    have hstar : (x.next '*').mode = .star := by rw [Lexer.mode_next, hx]; rfl
    have hcode : ((x.next '*').next '/').mode = .code := by rw [Lexer.mode_next, hstar]; rfl
    exact ((ih h.2.2 hcode).cons_of_eq (depth_next_of_not_code (by rw [hstar]; rfl) _)).cons_of_eq
      (depth_next_of_not_code (by rw [hx]; rfl) _)
  | case3 c s hend ih =>
    rw [List.mem_cons, not_or] at h
    refine Lexer.Gives.cons_of_eq ?_ (depth_next_of_not_code (by rw [hx]; rfl) c)
    by_cases hc : c = '*'
    · -- after a star that ends no comment the lexer waits
      have hstar : (x.next c).mode = .star := by rw [Lexer.mode_next, hx, hc]; rfl
      refine Lexer.Gives.waiting (m := .blockComment) (ih h.2 rfl) (by rw [hstar]; rfl)
        (by rw [hstar]; rfl) fun d t hs => ?_
      have hd : d ≠ '/' := fun hd => hend t hc (by rw [hs, hd])
      rw [hstar]
      exact if_neg hd
    · refine ih h.2 ?_
      rw [Lexer.mode_next, hx]
      exact if_neg hc
  | case4 c s ih =>
    rw [List.mem_cons, not_or] at h
    refine (ih h.2 ?_).cons_of_eq (depth_next_of_not_code (by rw [hx]; rfl) c)
    rw [Lexer.mode_next, hx]
    by_cases hc : c = '\x60' <;> simp [ScanState.mode, Mode.next, hc]
  | case5 q c s ih =>
    rw [List.mem_cons, not_or] at h
    refine (ih h.2 ?_).cons_of_eq (depth_next_of_not_code (by rw [hx]; rfl) c)
    rw [Lexer.mode_next, hx]
    refine (if_neg (Ne.symm h.1)).trans ?_
    by_cases hc : c = '\\'
    · simp [hc, ScanState.mode]
    · by_cases hq : c = q
      · have hq' : q ≠ '\\' := hq ▸ hc
        simp [hq, hq', ScanState.mode]
      · simp [hc, hq, ScanState.mode]
  | case6 q c s ih =>
    rw [List.mem_cons, not_or] at h
    refine (ih h.2 ?_).cons_of_eq (depth_next_of_not_code (by rw [hx]; rfl) c)
    rw [Lexer.mode_next, hx]
    exact if_neg (Ne.symm h.1)
  | case7 s =>
    -- a line comment takes the rest of the line
    simp only [List.mem_cons, not_or] at h
    have hslash : (x.next '/').mode = .slash := by rw [Lexer.mode_next, hx]; rfl
    have hcomment : ((x.next '/').next '/').mode = .lineComment := by
      rw [Lexer.mode_next, hslash]
      rfl
    exact ((run_lineComment h.2.2 hcomment).cons_of_eq
      (depth_next_of_code_of_weight (by rw [hslash]; rfl) rfl)).cons_of_eq
      (depth_next_of_code_of_weight (by rw [hx]; rfl) rfl)
  | case8 s ih =>
    simp only [List.mem_cons, not_or] at h
    have hslash : (x.next '/').mode = .slash := by rw [Lexer.mode_next, hx]; rfl
    have hcomment : ((x.next '/').next '*').mode = .blockComment := by
      rw [Lexer.mode_next, hslash]
      rfl
    exact ((ih h.2.2 hcomment).cons_of_eq
      (depth_next_of_code_of_weight (by rw [hslash]; rfl) rfl)).cons_of_eq
      (depth_next_of_code_of_weight (by rw [hx]; rfl) rfl)
  | case9 c s hline hblock q d hscan ih =>
    rw [List.mem_cons, not_or] at h
    rw [hscan] at ih
    refine Lexer.Gives.cons ?_ (depth_next_of_code (by rw [hx]; rfl) c)
    by_cases hc : c = '/'
    · -- after a slash that starts no comment the lexer waits
      subst hc
      have hslash : (x.next '/').mode = .slash := by rw [Lexer.mode_next, hx]; rfl
      refine Lexer.Gives.waiting (m := .code) (ih h.2 rfl) (by rw [hslash]; rfl)
        (by rw [hslash]; rfl) fun e t hs => ?_
      have he : e ≠ '/' := fun he => hline t rfl (by rw [hs, he])
      have he' : e ≠ '*' := fun he => hblock t rfl (by rw [hs, he])
      rw [hslash]
      exact (if_neg he).trans (if_neg he')
    · refine ih h.2 ?_
      rw [Lexer.mode_next, hx, ← afterCode_eq hc]
      rfl

/-! ## Blanks -/

/-- A character that no mode other than a literal or a line comment looks at. -/
theorem ne_of_blank {c : Char} (h : isBlank c = true) :
    c ≠ '/' ∧ c ≠ '*' ∧ c ≠ '\x60' ∧ c ≠ '"' ∧ c ≠ '\'' ∧ isOpening c = false ∧ isClosing c = false := by
  refine ⟨?_, ?_, ?_, ?_, ?_, ?_, ?_⟩
  iterate 5
    rintro rfl
    revert h
    decide
  · by_contra ho
    simp only [isOpening, Bool.not_eq_false, Bool.or_eq_true, beq_iff_eq] at ho
    rcases ho with (rfl | rfl) | rfl <;> exact absurd h (by decide)
  · by_contra hc
    simp only [isClosing, Bool.not_eq_false, Bool.or_eq_true, beq_iff_eq] at hc
    rcases hc with (rfl | rfl) | rfl <;> exact absurd h (by decide)

theorem afterCode_of_blank {c : Char} (h : isBlank c = true) : Mode.afterCode c = .code := by
  obtain ⟨hslash, -, hraw, hdouble, hsingle, -⟩ := ne_of_blank h
  simp [Mode.afterCode, hslash, hraw, hdouble, hsingle]

theorem next_of_blank {x : Lexer} {c : Char} (h : isBlank c = true) :
    x.next c = { x with mode := x.mode.next c } := by
  obtain ⟨-, -, -, -, -, ho, hc⟩ := ne_of_blank h
  simp [Lexer.next, ho, hc]

/-- Blanks in code change nothing. -/
theorem run_blank {b : List Char} (hb : Blank b) {x : Lexer} (hx : x.mode = .code) : x.run b = x := by
  induction b with
  | nil => rfl
  | cons c b ih =>
    have hc : isBlank c = true := hb c List.mem_cons_self
    have hnext : x.next c = x := by
      rw [next_of_blank hc, hx, Mode.next, afterCode_of_blank hc, ← hx]
    rw [Lexer.run_cons, hnext]
    exact ih fun d hd => hb d (List.mem_cons_of_mem _ hd)

theorem mode_next_blank_feed (m : Mode) {c : Char} (h : isBlank c = true) :
    (m.next c).next '\n' = m.next '\n' := by
  obtain ⟨hslash, hstar, hraw, -⟩ := ne_of_blank h
  rw [mode_next_feed, mode_next_feed]
  cases m with
  | code => rw [Mode.next, afterCode_of_blank h]
  | slash => rw [Mode.next, if_neg hslash, if_neg hstar, afterCode_of_blank h]; rfl
  | lineComment => rw [Mode.next]; split <;> rfl
  | blockComment => rw [Mode.next, if_neg hstar]
  | star => rw [Mode.next, if_neg hslash, if_neg hstar]; rfl
  | rawString => rw [Mode.next, if_neg hraw]
  | literal q => rw [Mode.next]; split_ifs <;> rfl
  | escaped q => rw [Mode.next]; split_ifs <;> rfl

/-- A blank opens no raw string. -/
theorem next_ne_rawString {m : Mode} (hm : m ≠ .rawString) {c : Char} (h : isBlank c = true) :
    m.next c ≠ .rawString := by
  obtain ⟨hslash, hstar, -⟩ := ne_of_blank h
  cases m with
  | code => rw [Mode.next, afterCode_of_blank h]; exact Mode.noConfusion
  | slash => rw [Mode.next, if_neg hslash, if_neg hstar, afterCode_of_blank h]; exact Mode.noConfusion
  | rawString => exact absurd rfl hm
  | _ => rw [Mode.next]; split_ifs <;> exact Mode.noConfusion

theorem next_blank_feed (x : Lexer) {c : Char} (h : isBlank c = true) :
    (x.next c).next '\n' = x.next '\n' := by
  rw [next_of_blank h, next_of_blank (x := x) rfl, next_of_blank rfl, mode_next_blank_feed _ h]

/-- Blanks before a line feed change nothing. -/
theorem run_blank_feed {b : List Char} (hb : Blank b) (x : Lexer) : x.run (b ++ ['\n']) = x.next '\n' := by
  induction b generalizing x with
  | nil => rfl
  | cons c b ih =>
    rw [List.cons_append, Lexer.run_cons, ih fun d hd => hb d (List.mem_cons_of_mem _ hd),
      next_blank_feed x (hb c List.mem_cons_self)]

theorem blank_return : Blank ['\r'] := by decide

theorem run_withoutReturn (x : Lexer) (l : List Char) :
    x.run (withoutReturn l ++ ['\n']) = x.run (l ++ ['\n']) := by
  rcases withoutReturn_spec l with h | h
  · rw [← h]
  · conv_rhs => rw [h, List.append_assoc, Lexer.run_append, run_blank_feed blank_return]
    rw [Lexer.run_append]
    rfl

/-- The blanks at the ends of a line that starts in code change nothing. -/
theorem run_trim {x : Lexer} (hx : x.mode = .code) (l : List Char) :
    x.run (trim l ++ ['\n']) = x.run (l ++ ['\n']) := by
  obtain ⟨a, b, ha, hb, hl⟩ := trim_spec l
  calc x.run (trim l ++ ['\n'])
      = ((x.run a).run (trim l)).run (b ++ ['\n']) := by
        rw [run_blank ha hx, run_blank_feed hb, Lexer.run_append]
        rfl
    _ = x.run (a ++ trim l ++ b ++ ['\n']) := by
        simp only [Lexer.run_append]
    _ = x.run (l ++ ['\n']) := by rw [← hl]

/-- What scanning a line gives is what the lexer has after its line feed. -/
theorem run_scanLine {q : LineState} {l : List Char} (h : '\n' ∉ l) {x : Lexer} (hx : x.mode = q.mode) :
    (x.run (l ++ ['\n'])).mode = (scanLine q l).1.mode ∧
      (x.run (l ++ ['\n'])).depth = x.depth + (scanLine q l).2 := by
  obtain ⟨hline, hdepth⟩ := run_scan q.scan h (x := x) (by rw [hx, mode_scan])
  rw [Lexer.run_append]
  constructor
  · rw [scanLine, ← hline]
    exact mode_next_feed _
  · rw [scanLine, ← hdepth]
    exact depth_next_feed _

end Registrar.Layout
