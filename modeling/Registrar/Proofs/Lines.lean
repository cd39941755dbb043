import Mathlib.Data.List.Infix
import Registrar.Output.Layout
import Registrar.Proofs.Text
/-!
# Lines of a text

A text is read line by line: what holds of a line without a line feed, and of a line before a text of
which it holds, holds of every text (`lines_induction`). `lineStarts` lists the beginnings of a text
that end where a line starts.
-/
namespace Registrar.Text

/-- A line without the carriage return before its line feed. -/
def withoutReturn (line : List Char) : List Char := (before? ['\r'] line).getD line

theorem withoutReturn_spec (line : List Char) :
    line = withoutReturn line ∨ line = withoutReturn line ++ ['\r'] := by
  rw [withoutReturn]
  cases h : before? ['\r'] line with
  | none => exact .inl rfl
  | some l => exact .inr (before?_eq_some_iff.1 h)

theorem withoutReturn_append_return (line : List Char) : withoutReturn (line ++ ['\r']) = line := by
  rw [withoutReturn, before?_append]
  rfl

theorem withoutReturn_of_not_mem {line : List Char} (h : '\r' ∉ line) : withoutReturn line = line := by
  rcases withoutReturn_spec line with hl | hl
  · exact hl.symm
  · rw [hl] at h
    exact absurd (List.mem_append_right _ List.mem_cons_self) h

theorem mem_of_mem_withoutReturn {c : Char} {line : List Char} (h : c ∈ withoutReturn line) :
    c ∈ line := by
  rcases withoutReturn_spec line with hl | hl
  · exact hl ▸ h
  · rw [hl]
    exact List.mem_append_left _ h

/-! ## One line after another -/

/-- A text has one first line. -/
theorem append_feed_inj {l l' r r' : List Char} (hl : '\n' ∉ l) (hl' : '\n' ∉ l')
    (h : l ++ '\n' :: r = l' ++ '\n' :: r') : l = l' ∧ r = r' := by
  rcases List.append_eq_append_iff.1 h with ⟨t, rfl, ht⟩ | ⟨t, rfl, ht⟩
  · cases t with
    | nil => exact ⟨(List.append_nil _).symm, (List.cons.inj ht).2⟩
    | cons c t => exact absurd (by simp [← (List.cons.inj ht).1]) hl'
  · cases t with
    | nil => exact ⟨List.append_nil _, (List.cons.inj ht).2.symm⟩
    | cons c t => exact absurd (by simp [← (List.cons.inj ht).1]) hl

theorem lines_of_not_mem {l : List Char} (h : '\n' ∉ l) : lines l = if l = [] then [] else [l] := by
  rw [lines, split_of_not_mem h]
  cases l <;> rfl

theorem lines_nil : lines [] = [] := lines_of_not_mem List.not_mem_nil

theorem lines_append {l : List Char} (h : '\n' ∉ l) (rest : List Char) :
    lines (l ++ '\n' :: rest) = withoutReturn l :: lines rest := by
  rw [lines, lines, split_append, split_of_not_mem h]
  cases hs : split '\n' rest with
  | nil => exact absurd hs (split_ne_nil _ _)
  | cons p ps =>
    simp only [List.singleton_append, List.dropLast_cons_cons, List.map_cons,
      List.getLast?_cons_cons, withoutReturn]
    split <;> rfl

/-- Every text is a line without a line feed, or such a line before a line feed and another text. -/
@[elab_as_elim]
theorem lines_induction {P : List Char → Prop} (last : ∀ l, '\n' ∉ l → P l)
    (line : ∀ l rest, '\n' ∉ l → P rest → P (l ++ '\n' :: rest)) (s : List Char) : P s := by
  induction hn : s.length using Nat.strong_induction_on generalizing s with
  | _ n ih =>
    by_cases h : '\n' ∈ s
    · obtain ⟨l, rest, rfl, hl⟩ := List.eq_append_cons_of_mem h
      refine line l rest hl (ih rest.length ?_ rest rfl)
      rw [← hn, List.length_append, List.length_cons]
      omega
    · exact last s h

theorem mem_of_mem_lines {s l : List Char} {c : Char} (hl : l ∈ lines s) (hc : c ∈ l) :
    c ∈ s ∧ c ≠ '\n' := by
  induction s using lines_induction with
  | last s h =>
    rw [lines_of_not_mem h] at hl
    split at hl
    · cases hl
    · rw [List.mem_singleton.1 hl] at hc
      exact ⟨hc, fun hn => h (hn ▸ hc)⟩
  | line l' rest h ih =>
    rw [lines_append h] at hl
    rcases List.mem_cons.1 hl with rfl | hl
    · have hmem := mem_of_mem_withoutReturn hc
      exact ⟨List.mem_append_left _ hmem, fun hn => h (hn ▸ hmem)⟩
    · obtain ⟨hmem, hne⟩ := ih hl
      exact ⟨List.mem_append_right _ (List.mem_cons_of_mem _ hmem), hne⟩

/-- The lines of a text of lines are those lines, cut off before carriage returns. -/
theorem lines_unlines_eq_map {ls : List (List Char)} (h : ∀ l ∈ ls, '\n' ∉ l) :
    lines (Layout.unlines ls) = ls.map withoutReturn := by
  induction ls with
  | nil => exact lines_nil
  | cons l ls ih =>
    obtain ⟨hfeed, hls⟩ := List.forall_mem_cons.1 h
    rw [Layout.unlines, List.flatMap_cons, List.append_assoc, List.singleton_append, ← Layout.unlines,
      lines_append hfeed, ih hls, List.map_cons]

/-- Lines with neither line feeds nor carriage returns are the lines of their text. -/
theorem lines_unlines {ls : List (List Char)} (h : ∀ l ∈ ls, '\n' ∉ l ∧ '\r' ∉ l) :
    lines (Layout.unlines ls) = ls := by
  rw [lines_unlines_eq_map fun l hl => (h l hl).1]
  exact (List.map_congr_left fun l hl => withoutReturn_of_not_mem (h l hl).2).trans (List.map_id' ls)

/-! ## Where lines start -/

/-- The beginnings of a text that end where a line starts: before the first line, and after each line
feed. -/
def lineStarts (s : List Char) : List (List Char) :=
  s.inits.filter fun pre => pre.getLast?.all (· == '\n')

theorem lineStarts_cons (c : Char) (s : List Char) :
    lineStarts (c :: s) = [] :: ((lineStarts s).map (c :: ·)).filter fun pre => pre ≠ [c] ∨ c = '\n' := by
  have hkept : ∀ pre : List Char, ((c :: pre).getLast?.all (· == '\n')) =
      (decide (c :: pre ≠ [c] ∨ c = '\n') && pre.getLast?.all (· == '\n')) := by
    intro pre
    cases pre with
    | nil => simp [beq_eq_decide]
    | cons d pre => simp [List.getLast?_cons_cons]
  rw [lineStarts, List.inits_cons, List.filter_cons_of_pos (by rfl), lineStarts, List.filter_map,
    List.filter_map, List.filter_filter]
  congr 2
  exact List.filter_congr fun pre _ => hkept pre

theorem lineStarts_of_not_mem {l : List Char} (h : '\n' ∉ l) : lineStarts l = [[]] := by
  induction l with
  | nil => rfl
  | cons c l ih =>
    rw [List.mem_cons, not_or] at h
    rw [lineStarts_cons, ih h.2]
    simp [Ne.symm h.1]

theorem lineStarts_append {l : List Char} (h : '\n' ∉ l) (rest : List Char) :
    lineStarts (l ++ '\n' :: rest) = [] :: (lineStarts rest).map fun pre => l ++ '\n' :: pre := by
  induction l with
  | nil =>
    rw [List.nil_append, lineStarts_cons]
    congr 1
    exact List.filter_eq_self.2 fun _ _ => by simp
  | cons c l ih =>
    rw [List.mem_cons, not_or] at h
    -- the beginning that is the character alone is followed by no line feed
    rw [List.cons_append, lineStarts_cons, ih h.2, List.map_cons,
      List.filter_cons_of_neg (by simp [Ne.symm h.1]), List.map_map]
    congr 1
    refine List.filter_eq_self.2 fun pre hpre => ?_
    obtain ⟨p, -, rfl⟩ := List.mem_map.1 hpre
    simp

theorem lines_append_feed (p rest : List Char) :
    lines (p ++ '\n' :: rest) = lines (p ++ ['\n']) ++ lines rest := by
  induction p using lines_induction with
  | last l hl => rw [lines_append hl, lines_append hl, lines_nil, List.singleton_append]
  | line l p hl ih =>
    rw [List.append_assoc, List.cons_append, lines_append hl, ih, List.append_assoc, List.cons_append,
      lines_append hl, List.cons_append]

theorem mem_lineStarts {pre s : List Char} :
    pre ∈ lineStarts s ↔ pre <+: s ∧ (pre = [] ∨ ∃ p, pre = p ++ ['\n']) := by
  rw [lineStarts, List.mem_filter, List.mem_inits]
  refine and_congr_right fun _ => ?_
  rcases List.eq_nil_or_concat' pre with rfl | ⟨p, c, rfl⟩
  · simp
  · simp

theorem lines_of_mem_lineStarts {pre s : List Char} (h : pre ∈ lineStarts s) :
    ∃ rest, s = pre ++ rest ∧ lines s = lines pre ++ lines rest := by
  obtain ⟨⟨rest, rfl⟩, hpre⟩ := mem_lineStarts.1 h
  refine ⟨rest, rfl, ?_⟩
  rcases hpre with rfl | ⟨p, rfl⟩
  · rw [lines_nil, List.nil_append, List.nil_append]
  · rw [← lines_append_feed, List.append_assoc, List.singleton_append]

end Registrar.Text
