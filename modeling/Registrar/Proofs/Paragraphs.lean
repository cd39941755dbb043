import Registrar.Proofs.LayoutPass
import Registrar.Proofs.Lexing
/-!
# Paragraphs

What the layout pass writes, told by a lexer over the whole text. At the start of every line the pass
is in the state of the lexer (`line_reached`). Where brackets are never closed before they are opened
it has the depth of the lexer too (`lay_lines`), and so it writes the paragraphs of the text, each
line by its own rule and one blank line between two of them (`reindent_paragraphs`).
-/
namespace Registrar.Layout
open Text

/-! ## The pass follows the lexer -/

/-- What the pass knows after a line is what the lexer knows, but that its depth stays above zero. -/
theorem next_spec {st : State} {x : Lexer} (h : x.mode = st.line.mode) {l : List Char} (hl : '\n' ∉ l) :
    (x.run (l ++ ['\n'])).mode = (st.next l).line.mode ∧
      (st.next l).depth = ((st.depth : Int) + ((x.run (l ++ ['\n'])).depth - x.depth)).toNat := by
  have hadvance : ∀ v, '\n' ∉ v → (x.run (v ++ ['\n'])).mode = (st.advance v).line.mode ∧
      (st.advance v).depth = ((st.depth : Int) + ((x.run (v ++ ['\n'])).depth - x.depth)).toNat := by
    intro v hv
    obtain ⟨hmode, hdepth⟩ := run_scanLine hv h
    have hnet : (x.run (v ++ ['\n'])).depth - x.depth = (scanLine st.line v).2 := by omega
    exact ⟨hmode, by rw [hnet]; rfl⟩
  rw [State.next]
  split_ifs with hcode hblank
  · exact hadvance l hl
  · have hx : x.mode = .code := by rw [h, not_not.1 hcode]; rfl
    have hrun : x.run ([] ++ ['\n']) = x.next '\n' := rfl
    rw [← run_trim hx, hblank, hrun, depth_next_feed, Int.sub_self, Int.add_zero]
    exact ⟨by rw [Lexer.mode_next, mode_next_feed, h, line_mode], rfl⟩
  · have hx : x.mode = .code := by rw [h, not_not.1 hcode]; rfl
    rw [← run_trim hx]
    exact hadvance (trim l) fun hmem => hl (mem_of_mem_trim hmem)

/-- The same for a line that is cut off before its line feed. -/
theorem next_withoutReturn_spec {st : State} {x : Lexer} (h : x.mode = st.line.mode) {l : List Char}
    (hl : '\n' ∉ l) :
    (x.run (l ++ ['\n'])).mode = (st.next (withoutReturn l)).line.mode ∧
      (st.next (withoutReturn l)).depth =
        ((st.depth : Int) + ((x.run (l ++ ['\n'])).depth - x.depth)).toNat := by
  rw [← run_withoutReturn]
  exact next_spec h fun hmem => hl (mem_of_mem_withoutReturn hmem)

/-- After every text the pass is in the state of the lexer. -/
theorem line_reached {st : State} {x : Lexer} (h : x.mode = st.line.mode) (s : List Char) :
    (st.reached (lines s)).line = (x.run s).line := by
  induction s using lines_induction generalizing st x with
  | last l hl =>
    rw [lines_of_not_mem hl]
    split_ifs with hempty
    · calc st.line = st.line.mode.line := (line_mode _).symm
        _ = (x.run l).line := by rw [← h, hempty]; rfl
    · have hmode : (x.run l).line.mode = (st.next l).line.mode := by
        rw [← (next_spec h hl).1, Lexer.run_append]
        exact (mode_next_feed _).symm
      calc (st.next l).line = (st.next l).line.mode.line := (line_mode _).symm
        _ = (x.run l).line := by rw [← hmode, line_mode]
  | line l rest hl ih =>
    rw [lines_append hl, x.run_append_feed]
    exact ih (next_withoutReturn_spec h hl).1

/-! ## Lines with the lexer at their start -/

/-- A line of a text, and the lexer after what stands before it. -/
structure Spot where
  before : Lexer
  text : List Char
deriving DecidableEq, Repr

/-- A blank line of code. -/
def Spot.isGap (p : Spot) : Bool := p.before.line = .code ∧ trim p.text = []

/-- A line of code is written trimmed behind one tab for each open bracket, less those that it closes
first; any other line as it is. -/
def Spot.written (p : Spot) : List Char :=
  if p.before.line = .code then
    List.replicate (p.before.opened - p.before.closed - ((trim p.text).takeWhile isClosing).length) '\t' ++
      trim p.text
  else p.text

/-- The lines of a text that stands behind what the lexer has read. -/
def spots (x : Lexer) (s : List Char) : List Spot :=
  List.zipWith Spot.mk ((lineStarts s).map x.run) (lines s)

/-- The runs of lines between blank lines of code. -/
def paragraphs (s : List Char) : List (List Spot) :=
  ((spots {} s).splitOnP Spot.isGap).filter (· ≠ [])

theorem spots_of_not_mem {l : List Char} (h : '\n' ∉ l) (x : Lexer) :
    spots x l = if l = [] then [] else [⟨x, l⟩] := by
  rw [spots, lineStarts_of_not_mem h, lines_of_not_mem h]
  split_ifs <;> rfl

theorem spots_append {l : List Char} (h : '\n' ∉ l) (x : Lexer) (rest : List Char) :
    spots x (l ++ '\n' :: rest) = ⟨x, withoutReturn l⟩ :: spots (x.run (l ++ ['\n'])) rest := by
  have hrun : x.run ∘ (fun pre => l ++ '\n' :: pre) = (x.run (l ++ ['\n'])).run := by
    funext pre
    exact x.run_append_feed l pre
  rw [spots, lineStarts_append h, lines_append h, List.map_cons, List.zipWith_cons_cons, List.map_map, hrun]
  rfl

/-- Each line has its spot. -/
theorem map_text_spots (x : Lexer) (s : List Char) : (spots x s).map Spot.text = lines s := by
  induction s using lines_induction generalizing x with
  | last l hl =>
    rw [spots_of_not_mem hl, lines_of_not_mem hl]
    split_ifs <;> rfl
  | line l rest hl ih => rw [spots_append hl, lines_append hl, List.map_cons, ih]

/-- What is written for lines from a pass on that has started or not and owes a blank line or not. -/
def spread (started blank : Bool) : List Spot → List (List Char)
  | [] => []
  | p :: ps =>
    if p.isGap then spread started started ps
    else (if blank then [[]] else []) ++ p.written :: spread true false ps

/-- A pass at the depth of the lexer writes a line by its own rule. -/
theorem written_append_spread {st : State} {x : Lexer} (hst : st.Sound) (hmode : x.mode = st.line.mode)
    (hdepth : x.depth = st.depth) (line : List Char) (ps : List Spot) :
    st.written line ++ spread (st.next line).started (st.next line).blank ps =
      spread st.started st.blank (⟨x, line⟩ :: ps) := by
  have hline : x.line = st.line := by rw [Lexer.line, hmode, line_mode]
  rw [spread]
  by_cases hcode : st.line = .code
  · by_cases hblank : trim line = []
    · simp [State.written, State.next, Spot.isGap, hline, hcode, hblank]
    · have hopen : x.opened - x.closed = st.depth := by
        rw [Lexer.depth] at hdepth
        omega
      simp [State.written, State.next, State.advance, Spot.isGap, Spot.written, indentation, hline, hcode,
        hblank, hopen]
  · have hblank : st.blank = false := by
      by_contra hb
      exact hcode (hst (by simpa using hb)).2
    simp [State.written, State.next, State.advance, Spot.isGap, Spot.written, hline, hcode, hblank]

/-- Where no bracket is closed before it is opened, the pass stays at the depth of the lexer. -/
theorem lay_lines {st : State} {x : Lexer} (hst : st.Sound) (hmode : x.mode = st.line.mode)
    (hdepth : x.depth = st.depth) {s : List Char}
    (h : ∀ pre ∈ lineStarts s, (x.run pre).closed ≤ (x.run pre).opened) :
    lay st (lines s) = spread st.started st.blank (spots x s) := by
  induction s using lines_induction generalizing st x with
  | last l hl =>
    rw [lines_of_not_mem hl, spots_of_not_mem hl]
    split_ifs
    · rfl
    · rw [lay_cons, ← written_append_spread hst hmode hdepth]
      rfl
  | line l rest hl ih =>
    rw [lineStarts_append hl, List.forall_mem_cons, List.forall_mem_map] at h
    have hrest : ∀ pre ∈ lineStarts rest,
        ((x.run (l ++ ['\n'])).run pre).closed ≤ ((x.run (l ++ ['\n'])).run pre).opened := by
      intro pre hpre
      rw [← Lexer.run_append_feed]
      exact h.2 pre hpre
    obtain ⟨hmode', hdepth'⟩ := next_withoutReturn_spec hmode hl
    have hnonneg : 0 ≤ (x.run (l ++ ['\n'])).depth := by
      have hle := hrest [] (mem_lineStarts.2 ⟨List.nil_prefix, .inl rfl⟩)
      rw [Lexer.depth]
      exact Int.sub_nonneg.2 (Int.ofNat_le.2 hle)
    rw [lines_append hl, spots_append hl, lay_cons,
      ih (State.sound_next st _) hmode' (by omega) hrest, written_append_spread hst hmode hdepth]

/-! ## Runs of lines -/

theorem intercalate_cons {α : Type} (sep g : List α) (gs : List (List α)) :
    sep.intercalate (g :: gs) = g ++ gs.flatMap (sep ++ ·) := by
  induction gs generalizing g with
  | nil => simp
  | cons g' gs ih =>
    rw [List.intercalate_cons_cons, ih, List.flatMap_cons, List.append_assoc, List.append_assoc]

/-- The runs between gaps: the first one goes on with what has been written, if something has. -/
theorem spread_eq (ps : List Spot) {g : List Spot} {gs : List (List Spot)}
    (h : ps.splitOnP Spot.isGap = g :: gs) :
    spread false false ps =
        [[]].intercalate (((g :: gs).filter (· ≠ [])).map (·.map Spot.written)) ∧
      spread true true ps =
        (((g :: gs).filter (· ≠ [])).map (·.map Spot.written)).flatMap ([[]] ++ ·) ∧
      spread true false ps =
        g.map Spot.written ++ ((gs.filter (· ≠ [])).map (·.map Spot.written)).flatMap ([[]] ++ ·) := by
  induction ps generalizing g gs with
  | nil =>
    obtain ⟨rfl, rfl⟩ : g = [] ∧ gs = [] := by simpa [eq_comm] using h
    exact ⟨rfl, rfl, rfl⟩
  | cons p ps ih =>
    obtain ⟨g', gs', hps⟩ := List.exists_cons_of_ne_nil (List.splitOnP_ne_nil Spot.isGap ps)
    obtain ⟨hstart, hdue, hon⟩ := ih hps
    rw [List.splitOnP_cons_eq_if_modifyHead, hps] at h
    by_cases hgap : p.isGap = true
    · obtain ⟨rfl, rfl⟩ : g = [] ∧ gs = g' :: gs' := by simpa [hgap, eq_comm] using h
      simp only [spread, hgap, if_true]
      refine ⟨hstart, hdue, ?_⟩
      rw [hdue, List.map_nil, List.nil_append]
    · obtain ⟨rfl, rfl⟩ : g = p :: g' ∧ gs = gs' := by simpa [hgap, eq_comm] using h
      simp only [spread, hgap, hon]
      refine ⟨?_, ?_, ?_⟩
      · simp [intercalate_cons]
      · simp
      · simp

/-! ## The end of the text -/

/-- An empty line is written last only for an empty line in a comment or a raw string. -/
theorem State.getLast?_written {st : State} {line : List Char} (h : (st.written line).getLast? = some []) :
    st.line ≠ .code ∧ line = [] := by
  rw [State.written] at h
  split_ifs at h with hcode hblank
  · exact ⟨hcode, by simpa using h⟩
  all_goals simp [hblank] at h

/-- If the last line that is written is empty, a comment or a raw string is left open. -/
theorem line_reached_of_getLast? {st : State} {ls : List (List Char)}
    (h : (lay st ls).getLast? = some []) : (st.reached ls).line ≠ .code := by
  induction ls generalizing st with
  | nil => cases h
  | cons line ls ih =>
    rw [lay_cons] at h
    cases hrest : lay (st.next line) ls with
    | nil =>
      rw [hrest, List.append_nil] at h
      obtain ⟨hcode, rfl⟩ := State.getLast?_written h
      have hstays : (st.next []).line = st.line := by
        rw [State.next, if_pos hcode]
        cases st with | mk line => cases line <;> rfl
      -- nothing is dropped inside a comment or a raw string
      cases ls with
      | nil => exact hstays ▸ hcode
      | cons line' ls => simp [lay, hstays, hcode] at hrest
    | cons l rest =>
      rw [hrest, List.getLast?_append_cons, ← hrest] at h
      exact ih h

theorem unlines_append (ls ls' : List (List Char)) : unlines (ls ++ ls') = unlines ls ++ unlines ls' :=
  List.flatMap_append

/-- What is written for a text that ends in code ends with one line feed. -/
theorem unlines_lay_end {s : List Char} (h : (lexed s).line = .code) :
    unlines (lay {} (lines s)) = [] ∨
      ∃ body c, unlines (lay {} (lines s)) = body ++ [c, '\n'] ∧ c ≠ '\n' := by
  rcases List.eq_nil_or_concat' (lay {} (lines s)) with hnil | ⟨ls, l, hls⟩
  · exact .inl (by rw [hnil]; rfl)
  · right
    have hlast : l ≠ [] := by
      rintro rfl
      have hempty : (lay {} (lines s)).getLast? = some [] := by rw [hls]; simp
      refine line_reached_of_getLast? hempty ?_
      rw [line_reached (x := {}) rfl, ← lexed, h]
    obtain ⟨l', c, rfl⟩ := (List.eq_nil_or_concat' l).resolve_left hlast
    refine ⟨unlines ls ++ l', c, by rw [hls, unlines_append]; simp [unlines], ?_⟩
    rintro rfl
    have hmem : l' ++ ['\n'] ∈ lay {} (lines s) := by rw [hls]; simp
    rcases mem_of_mem_lay hmem (c := '\n') (by simp) with htab | ⟨line, hline, hc⟩
    · cases htab
    · exact (mem_of_mem_lines hline hc).2 rfl

/-! ## The pass by the lexer -/

/-- At the start of every line the pass is in the state of the lexer. Where no line starts behind more
closed than opened brackets it writes the paragraphs of the text with one blank line between two of
them, and of a text that ends in code what is written ends with exactly one line feed. -/
theorem reindent_paragraphs (source : String) :
    (∀ pre ∈ lineStarts source.toList, ∃ rest, source.toList = pre ++ rest ∧
      lay {} (lines source.toList) = lay {} (lines pre) ++ lay (State.reached {} (lines pre)) (lines rest) ∧
      (State.reached {} (lines pre)).line = (lexed pre).line) ∧
    (spots {} source.toList).map Spot.text = lines source.toList ∧
    ((∀ pre ∈ lineStarts source.toList, (lexed pre).closed ≤ (lexed pre).opened) →
      (reindent source).toList =
        unlines ([[]].intercalate ((paragraphs source.toList).map (·.map Spot.written)))) ∧
    ((lexed source.toList).line = .code → reindent source = "" ∨
      ∃ body c, (reindent source).toList = body ++ [c, '\n'] ∧ c ≠ '\n') := by
  have hout : (reindent source).toList = unlines (lay {} (lines source.toList)) := by
    rw [reindent, onChars, String.toList_ofList, reindentChars]
  refine ⟨fun pre hpre => ?_, map_text_spots {} _, fun hbalanced => ?_, fun hcode => ?_⟩
  · obtain ⟨rest, hrest, hlines⟩ := lines_of_mem_lineStarts hpre
    exact ⟨rest, hrest, by rw [hlines, lay_append], line_reached rfl pre⟩
  · obtain ⟨g, gs, hsplit⟩ := List.exists_cons_of_ne_nil
      (List.splitOnP_ne_nil Spot.isGap (spots {} source.toList))
    rw [hout, lay_lines State.sound_start rfl rfl hbalanced, paragraphs, hsplit]
    exact congrArg unlines (spread_eq _ hsplit).1
  · rcases unlines_lay_end hcode with hnil | hend
    · exact .inl (by rw [← String.toList_inj, hout, hnil]; rfl)
    · exact .inr (hout ▸ hend)

/-- Blank lines around and inside a call with a raw string, and a comment with a bracket. -/
theorem reindent_paragraphs_call :
    let source := "\n\ng(`a [\n b`,\n\n \n  x) /* (\n */ \n\n"
    (∀ pre ∈ lineStarts source.toList, (lexed pre).closed ≤ (lexed pre).opened) ∧
      (lexed source.toList).line = .code ∧
      (reindent source).toList = "g(`a [\n b`,\n\n\tx) /* (\n */ \n".toList :=
  ⟨by decide, by decide, ((reindent_paragraphs _).2.2.1 (by decide)).trans (by decide)⟩

end Registrar.Layout
