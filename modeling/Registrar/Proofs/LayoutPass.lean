import Registrar.Output.Formatter
import Registrar.Proofs.Lines
/-!
# The layout pass

What the pass writes for a line, and what it knows after it (`lay_append`). The pass over what it has
written writes the same again (`lay_lay`), so that a formatted text stays as it is
(`reindent_reindent`).
-/
namespace Registrar

/-- What can be read as a source file is laid out. -/
theorem Formatter.format_builtin_eq_ok_iff {programs : Programs} {source filename out : String} :
    Formatter.format programs .builtin source filename = .ok out ↔
      (∃ file, SourceFile.read filename source = .ok file) ∧ out = Layout.reindent source := by
  -- the check is opened as a function: opened at a text, the match on the parse would run the parser
  obtain ⟨check, hcheck⟩ : ∃ check, check = Formatter.layout := ⟨_, rfl⟩
  rw [Formatter.format, ← hcheck]
  delta Formatter.layout at hcheck
  rw [congrFun (congrFun hcheck source) filename]
  generalize SourceFile.read filename source = read
  cases read with
  | error e => simp
  | ok file => simp [eq_comm]

namespace Layout
open Text

/-! ## One line after another -/

namespace State

/-- What the pass knows after a line. -/
def next (st : State) (line : List Char) : State :=
  if st.line ≠ .code then st.advance line
  else if trim line = [] then { st with blank := st.started }
  else st.advance (trim line)

/-- What the pass writes for a line. -/
def written (st : State) (line : List Char) : List (List Char) :=
  if st.line ≠ .code then [line]
  else if trim line = [] then []
  else (if st.blank then [[]] else []) ++ [indentation st.depth (trim line) ++ trim line]

/-- What the pass knows after some lines. -/
def reached (st : State) (ls : List (List Char)) : State := ls.foldl next st

/-- A blank line is due only between lines, and before a line of code. -/
def Sound (st : State) : Prop := st.blank = true → st.started = true ∧ st.line = .code

theorem sound_advance (st : State) (line : List Char) : (st.advance line).Sound := nofun

theorem sound_next (st : State) (line : List Char) : (st.next line).Sound := by
  rw [State.next]
  split_ifs with hcode hblank
  · exact sound_advance st line
  · intro hstarted
    exact ⟨hstarted, not_not.1 hcode⟩
  · exact sound_advance st (trim line)

theorem sound_start : ({} : State).Sound := nofun

end State

theorem lay_cons (st : State) (line : List Char) (rest : List (List Char)) :
    lay st (line :: rest) = st.written line ++ lay (st.next line) rest := by
  rw [lay, State.written, State.next]
  simp only [List.isEmpty_iff]
  split_ifs <;> rfl

theorem lay_append (st : State) (ls rest : List (List Char)) :
    lay st (ls ++ rest) = lay st ls ++ lay (st.reached ls) rest := by
  induction ls generalizing st with
  | nil => rfl
  | cons line ls ih =>
    rw [List.cons_append, lay_cons, lay_cons, ih, List.append_assoc]
    rfl

/-- A written line is empty, or a line of the text as it is, or tabs and a trimmed line. -/
theorem mem_lay {st : State} {ls : List (List Char)} {l : List Char} (h : l ∈ lay st ls) :
    l = [] ∨ l ∈ ls ∨ ∃ n, ∃ line ∈ ls, l = List.replicate n '\t' ++ trim line := by
  induction ls generalizing st with
  | nil => cases h
  | cons line ls ih =>
    rw [lay_cons] at h
    rcases List.mem_append.1 h with h | h
    · rw [State.written] at h
      split_ifs at h with hcode hempty hblank
      · exact .inr (.inl (List.mem_singleton.1 h ▸ List.mem_cons_self))
      · cases h
      · rcases List.mem_append.1 h with h | h
        · exact .inl (List.mem_singleton.1 h)
        · exact .inr (.inr ⟨_, line, List.mem_cons_self, List.mem_singleton.1 h⟩)
      · exact .inr (.inr ⟨_, line, List.mem_cons_self, List.mem_singleton.1 h⟩)
    · rcases ih h with rfl | hmem | ⟨n, m, hm, rfl⟩
      · exact .inl rfl
      · exact .inr (.inl (List.mem_cons_of_mem _ hmem))
      · exact .inr (.inr ⟨n, m, List.mem_cons_of_mem _ hm, rfl⟩)

theorem mem_of_mem_trim {c : Char} {s : List Char} (h : c ∈ trim s) : c ∈ s := by
  obtain ⟨a, b, -, -, hs⟩ := trim_spec s
  rw [hs]
  exact List.mem_append_left _ (List.mem_append_right _ h)

/-- The pass brings in no characters but tabs. -/
theorem mem_of_mem_lay {st : State} {ls : List (List Char)} {l : List Char} (h : l ∈ lay st ls)
    {c : Char} (hc : c ∈ l) : c = '\t' ∨ ∃ line ∈ ls, c ∈ line := by
  rcases mem_lay h with rfl | hmem | ⟨n, line, hline, rfl⟩
  · cases hc
  · exact .inr ⟨l, hmem, hc⟩
  · rcases List.mem_append.1 hc with hc | hc
    · exact .inl (List.eq_of_mem_replicate hc)
    · exact .inr ⟨line, hline, mem_of_mem_trim hc⟩

/-! ## Passing again -/

theorem blank_replicate_tab (n : Nat) : Blank (List.replicate n '\t') := by
  intro c hc
  rw [List.eq_of_mem_replicate hc]
  decide

theorem trim_indentation (depth : Nat) (line : List Char) :
    trim (indentation depth (trim line) ++ trim line) = trim line := by
  have htabs : Blank (indentation depth (trim line)) := blank_replicate_tab _
  have h := trim_append htabs blank_nil (trim_trim line)
  rwa [List.append_nil] at h

/-- What is written for a line is written for it again. -/
theorem lay_written {st : State} (hst : st.Sound) (line : List Char) (rest : List (List Char)) :
    lay { st with blank := false } (st.written line ++ rest) =
      st.written line ++ lay { st.next line with blank := false } rest := by
  by_cases hcode : st.line = .code
  · by_cases hempty : trim line = []
    · simp [State.written, State.next, hcode, hempty]
    · obtain ⟨w, hw⟩ : ∃ w, w = indentation st.depth (trim line) ++ trim line := ⟨_, rfl⟩
      have htrim : trim w = trim line := hw ▸ trim_indentation st.depth line
      have hnil : trim [] = [] := trim_of_blank blank_nil
      have hadvance : ∀ b, ({ st with blank := b } : State).next w =
          { st.next line with blank := false } := by
        intro b
        simp [State.next, hcode, htrim, hempty, State.advance]
      cases hblank : st.blank with
      | false =>
        have hwritten : ({ st with blank := false } : State).written w = [w] := by
          simp [State.written, hcode, htrim, hempty, ← hw]
        have hline : st.written line = [w] := by simp [State.written, hcode, hempty, hblank, hw]
        rw [hline, List.singleton_append, lay_cons, hwritten, hadvance]
      | true =>
        -- the empty line before it makes a blank line due again
        have hempty' : ({ st with blank := false } : State).written [] = [] := by
          simp [State.written, hcode, hnil]
        have hdue : ({ st with blank := false } : State).next [] = { st with blank := true } := by
          simp [State.next, hcode, hnil, (hst hblank).1]
        have hwritten : ({ st with blank := true } : State).written w = [[], w] := by
          simp [State.written, hcode, htrim, hempty, ← hw]
        have hline : st.written line = [[], w] := by simp [State.written, hcode, hempty, hblank, hw]
        rw [hline, List.cons_append, List.singleton_append, lay_cons, hempty', hdue, lay_cons, hwritten,
          hadvance, List.nil_append]
  · have hblank : st.blank = false := by
      by_contra hb
      exact hcode (hst (by simpa using hb)).2
    have hsame : ({ st with blank := false } : State) = st := by rw [← hblank]
    have hnext : ({ st.next line with blank := false } : State) = st.next line := by
      simp [State.next, hcode, State.advance]
    have hline : st.written line = [line] := by simp [State.written, hcode]
    rw [hsame, hnext, hline, List.singleton_append, lay_cons, hline, List.singleton_append]

/-- The pass over what it has written writes the same. -/
theorem lay_lay {st : State} (hst : st.Sound) (ls : List (List Char)) :
    lay { st with blank := false } (lay st ls) = lay st ls := by
  induction ls generalizing st with
  | nil => rfl
  | cons line ls ih => rw [lay_cons, lay_written hst, ih (State.sound_next st line)]

/-! ## Formatting again -/

/-- Carriage returns stand only before line feeds. -/
def ReturnsEndLines (s : List Char) : Prop :=
  ∀ k < s.length, s[k]? = some '\r' → s[k + 1]? = some '\n'

instance : DecidablePred ReturnsEndLines := fun s =>
  inferInstanceAs (Decidable (∀ k < s.length, s[k]? = some '\r' → s[k + 1]? = some '\n'))

theorem ReturnsEndLines.split {s a b : List Char} (h : ReturnsEndLines s) (hs : s = a ++ '\r' :: b) :
    b.head? = some '\n' := by
  have hnext := h a.length (by simp [hs]) (by simp [hs])
  rw [hs, List.getElem?_append_right (Nat.le_succ _)] at hnext
  simpa [List.head?_eq_getElem?] using hnext

theorem ReturnsEndLines.of_append {a b : List Char} (h : ReturnsEndLines (a ++ b)) :
    ReturnsEndLines b := by
  intro k hk hreturn
  have hnext := h (a.length + k) (by rw [List.length_append]; omega)
    (by rwa [List.getElem?_append_right (Nat.le_add_right _ _), Nat.add_sub_cancel_left])
  rwa [Nat.add_assoc, List.getElem?_append_right (Nat.le_add_right _ _), Nat.add_sub_cancel_left] at hnext

/-- The lines of a text with carriage returns only before line feeds have none. -/
theorem ReturnsEndLines.not_mem_lines {s : List Char} (h : ReturnsEndLines s) :
    ∀ l ∈ lines s, '\r' ∉ l := by
  induction s using lines_induction with
  | last s hs =>
    have hnone : '\r' ∉ s := by
      intro hreturn
      obtain ⟨a, b, hab⟩ := List.append_of_mem hreturn
      have hfeed : '\n' ∈ b := List.mem_of_mem_head? (h.split hab)
      exact hs (by rw [hab]; simp [hfeed])
    rw [lines_of_not_mem hs]
    split_ifs
    · exact fun l hl => nomatch hl
    · simpa using hnone
  | line l rest hl ih =>
    have hrest : ReturnsEndLines rest := by
      rw [List.append_cons] at h
      exact h.of_append
    rw [lines_append hl]
    refine List.forall_mem_cons.2 ⟨fun hreturn => ?_, ih hrest⟩
    -- a carriage return that is left in the line would stand before the line feed
    obtain ⟨a, b, hab⟩ := List.append_of_mem hreturn
    obtain ⟨b', hb'⟩ : ∃ b', l = a ++ '\r' :: b' := by
      rcases withoutReturn_spec l with hw | hw
      · exact ⟨b, hw.trans hab⟩
      · exact ⟨b ++ ['\r'], by rw [hw, hab, List.append_assoc, List.cons_append]⟩
    have hhead : (b' ++ '\n' :: rest).head? = some '\n' :=
      h.split (a := a) (by rw [hb', List.append_assoc, List.cons_append])
    cases b' with
    | nil =>
      rw [hb', withoutReturn_append_return] at hab
      simpa using congrArg List.length hab
    | cons d b' =>
      have hd : d = '\n' := by simpa using hhead
      exact hl (by rw [hb', hd]; simp)

/-- A text with carriage returns only before line feeds is laid out once and for all: laying it out
again, and formatting it again where it can be read as a source file, changes nothing. -/
theorem reindent_reindent {source : String} (h : ReturnsEndLines source.toList) :
    reindent (reindent source) = reindent source ∧
    ∀ programs filename name out file,
      Formatter.format programs .builtin source filename = .ok out → SourceFile.read name out = .ok file →
      Formatter.format programs .builtin out name = .ok out := by
  have hlines : ∀ l ∈ lay {} (lines source.toList), '\n' ∉ l ∧ '\r' ∉ l := by
    intro l hl
    constructor
    · intro hc
      rcases mem_of_mem_lay hl hc with htab | ⟨line, hline, hc⟩
      · cases htab
      · exact (mem_of_mem_lines hline hc).2 rfl
    · intro hc
      rcases mem_of_mem_lay hl hc with htab | ⟨line, hline, hc⟩
      · cases htab
      · exact h.not_mem_lines line hline hc
  have hagain : reindent (reindent source) = reindent source := by
    simp only [reindent, onChars, String.toList_ofList, reindentChars]
    rw [lines_unlines hlines, lay_lay State.sound_start]
  refine ⟨hagain, fun programs filename name out file hout hread => ?_⟩
  obtain ⟨-, rfl⟩ := Formatter.format_builtin_eq_ok_iff.1 hout
  exact Formatter.format_builtin_eq_ok_iff.2 ⟨⟨file, hread⟩, hagain.symm⟩

/-- A text with both line ends, brackets out of order, a raw string, a block comment and a rune that is
left open. -/
theorem reindent_reindent_mixed :
    let source := "package a\r\n\n\n  ]v = f(\r\nx, `a \n  b`\n /* (\n ) */ y('\n\n]\n\n"
    ReturnsEndLines source.toList ∧ reindent (reindent source) = reindent source :=
  ⟨by decide, (reindent_reindent (by decide)).1⟩

end Layout
end Registrar
