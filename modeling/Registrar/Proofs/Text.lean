import Mathlib.Data.List.TakeWhile
import Registrar.Text.Basic
import Registrar.Text.Identifier
/-!
# Cutting text

What trimming, cutting and splitting leave: `trim_append` and `trim_spec` say that trimming takes
off exactly the blanks at the ends, `after?_eq_some_iff` and `before?_eq_some_iff` that a cut gives
the rest of the text, and `split_append` that pieces end at the separator alone. Identifiers have no
blanks (`isBlank_of_isIdentifierPart`).
-/
namespace Registrar.Text

/-! ## Trimming -/

/-- Nothing but blank space. -/
def Blank (s : List Char) : Prop := ∀ c ∈ s, isBlank c = true

instance : DecidablePred Blank := fun s => decidable_of_iff (s.all isBlank = true) List.all_eq_true

theorem blank_nil : Blank [] := fun _ h => nomatch h

theorem Blank.append {a b : List Char} (ha : Blank a) (hb : Blank b) : Blank (a ++ b) :=
  fun c hc => (List.mem_append.1 hc).elim (ha c) (hb c)

theorem Blank.reverse {a : List Char} (ha : Blank a) : Blank a.reverse :=
  fun c hc => ha c (List.mem_reverse.1 hc)

theorem Blank.dropWhile_append {a : List Char} (ha : Blank a) (s : List Char) :
    (a ++ s).dropWhile isBlank = s.dropWhile isBlank := by
  induction a with
  | nil => rfl
  | cons c a ih =>
    rw [List.cons_append, List.dropWhile_cons_of_pos (ha c List.mem_cons_self)]
    exact ih fun d hd => ha d (List.mem_cons_of_mem _ hd)

/-- A text that does not start with a blank. -/
def Solid (s : List Char) : Prop := ∀ c t, s = c :: t → isBlank c = false

theorem solid_cons {c : Char} (hc : isBlank c = false) (s : List Char) : Solid (c :: s) := by
  intro d t h
  cases h
  exact hc

theorem Solid.dropWhile {s : List Char} (h : Solid s) : s.dropWhile isBlank = s := by
  cases s with
  | nil => rfl
  | cons c t => exact List.dropWhile_cons_of_neg (by simp [h c t rfl])

theorem Solid.append {s : List Char} (h : Solid s) (hs : s ≠ []) (t : List Char) : Solid (s ++ t) := by
  cases s with
  | nil => exact absurd rfl hs
  | cons c s => intro d u he; cases he; exact h c s rfl

theorem solid_dropWhile (s : List Char) : Solid (s.dropWhile isBlank) := by
  intro c t h
  have hc := List.head?_dropWhile_not isBlank s
  rw [h] at hc
  simpa using hc

theorem dropWhile_spec (s : List Char) :
    ∃ a, Blank a ∧ s = a ++ s.dropWhile isBlank :=
  ⟨s.takeWhile isBlank, fun _ hc => List.mem_takeWhile_imp hc, List.takeWhile_append_dropWhile.symm⟩

theorem dropWhile_eq_trim_append (s : List Char) :
    ∃ b, Blank b ∧ s.dropWhile isBlank = trim s ++ b := by
  obtain ⟨b, hb, h⟩ := dropWhile_spec (s.dropWhile isBlank).reverse
  refine ⟨b.reverse, hb.reverse, ?_⟩
  simp only [trim, dropAround, dropEndWhile]
  rw [← List.reverse_append, ← h, List.reverse_reverse]

/-- Trimming takes off only blanks at the ends. -/
theorem trim_spec (s : List Char) : ∃ a b, Blank a ∧ Blank b ∧ s = a ++ trim s ++ b := by
  obtain ⟨a, ha, hs⟩ := dropWhile_spec s
  obtain ⟨b, hb, ht⟩ := dropWhile_eq_trim_append s
  exact ⟨a, b, ha, hb, by rw [List.append_assoc, ← ht]; exact hs⟩

theorem solid_trim (s : List Char) : Solid (trim s) ∧ Solid (trim s).reverse := by
  constructor
  · intro c t h
    obtain ⟨b, -, hb⟩ := dropWhile_eq_trim_append s
    exact solid_dropWhile s c (t ++ b) (by rw [hb, h, List.cons_append])
  · simp only [trim, dropAround, dropEndWhile, List.reverse_reverse]
    exact solid_dropWhile _

/-- A trimmed text is one with no blank at either end. -/
theorem trim_eq_self_iff {s : List Char} : trim s = s ↔ Solid s ∧ Solid s.reverse := by
  constructor
  · intro h
    exact h ▸ solid_trim s
  · rintro ⟨hs, hr⟩
    simp only [trim, dropAround, dropEndWhile]
    rw [hs.dropWhile, hr.dropWhile, List.reverse_reverse]

theorem trim_trim (s : List Char) : trim (trim s) = trim s := trim_eq_self_iff.2 (solid_trim s)

theorem trim_of_blank {a : List Char} (ha : Blank a) : trim a = [] := by
  have h := ha.dropWhile_append []
  rw [List.append_nil] at h
  simp [trim, dropAround, dropEndWhile, h]

/-- Trimming takes the blanks around a trimmed text off. -/
theorem trim_append {a s b : List Char} (ha : Blank a) (hb : Blank b) (hs : trim s = s) :
    trim (a ++ s ++ b) = s := by
  by_cases h : s = []
  · subst h
    rw [List.append_nil]
    exact trim_of_blank (ha.append hb)
  · obtain ⟨hstart, hend⟩ := trim_eq_self_iff.1 hs
    simp only [trim, dropAround, dropEndWhile]
    rw [List.append_assoc, ha.dropWhile_append, (hstart.append h b).dropWhile, List.reverse_append,
      hb.reverse.dropWhile_append, hend.dropWhile, List.reverse_reverse]

theorem trim_append_blank (s : List Char) {b : List Char} (hb : Blank b) : trim (s ++ b) = trim s := by
  obtain ⟨x, y, hx, hy, hs⟩ := trim_spec s
  have h := trim_append hx (hy.append hb) (trim_trim s)
  rwa [← List.append_assoc, ← hs] at h

/-- Every text ends in a run of blanks after a part that does not end in one. -/
theorem trimEnd_spec (s : List Char) : ∃ t b, Blank b ∧ s = t ++ b ∧ Solid t.reverse := by
  obtain ⟨b, hb, h⟩ := dropWhile_spec s.reverse
  refine ⟨(s.reverse.dropWhile isBlank).reverse, b.reverse, hb.reverse, ?_, ?_⟩
  · rw [← List.reverse_append, ← h, List.reverse_reverse]
  · rw [List.reverse_reverse]
    exact solid_dropWhile _

theorem trimStart_append {a s : List Char} (ha : Blank a) (hs : Solid s) : trimStart (a ++ s) = s := by
  rw [trimStart, ha.dropWhile_append, hs.dropWhile]

theorem dropWhile_append_cons {p : Char → Bool} {c : Char} (hc : p c = false) (s r : List Char) :
    (s ++ c :: r).dropWhile p = s.dropWhile p ++ c :: r := by
  rw [List.dropWhile_append]
  split
  · rename_i h
    rw [List.isEmpty_iff.1 h, List.dropWhile_cons_of_neg (by simp [hc]), List.nil_append]
  · rfl

theorem dropEndWhile_append_cons {p : Char → Bool} {c : Char} (hc : p c = false) (s r : List Char) :
    dropEndWhile p (s ++ c :: r) = s ++ c :: dropEndWhile p r := by
  have hreverse : (s ++ c :: r).reverse = r.reverse ++ c :: s.reverse := by simp
  rw [dropEndWhile, hreverse, dropWhile_append_cons hc]
  simp [dropEndWhile]

/-! ## Cutting -/

theorem after?_eq_some_iff {p s r : List Char} : after? p s = some r ↔ s = p ++ r := by
  induction p generalizing s with
  | nil => simp [after?, eq_comm]
  | cons a p ih =>
    cases s with
    | nil => simp [after?]
    | cons b s =>
      rw [after?]
      split
      · rename_i h
        simp [ih, h]
      · rename_i h
        simp [Ne.symm h]

theorem after?_append (p r : List Char) : after? p (p ++ r) = some r := after?_eq_some_iff.2 rfl

theorem before?_eq_some_iff {p s r : List Char} : before? p s = some r ↔ s = r ++ p := by
  rw [before?, Option.map_eq_some_iff]
  constructor
  · rintro ⟨t, ht, rfl⟩
    rw [after?_eq_some_iff] at ht
    rw [← List.reverse_reverse s, ht, List.reverse_append, List.reverse_reverse]
  · rintro rfl
    exact ⟨r.reverse, by rw [List.reverse_append, after?_append], List.reverse_reverse r⟩

theorem before?_append (r p : List Char) : before? p (r ++ p) = some r := before?_eq_some_iff.2 rfl

/-- A cut at the start does not look beyond a character that the cut text does not have. -/
theorem after?_append_cons {p s : List Char} {c : Char} (hc : c ∉ p) (r : List Char) :
    after? p (s ++ c :: r) = (after? p s).map (· ++ c :: r) := by
  induction p generalizing s with
  | nil => rfl
  | cons a p ih =>
    rw [List.mem_cons, not_or] at hc
    cases s with
    | nil => simp [after?, Ne.symm hc.1]
    | cons b s =>
      rw [List.cons_append, after?, after?]
      split
      · exact ih hc.2
      · rfl

theorem before?_append_cons {p s : List Char} {c : Char} (hc : c ∉ p) (r : List Char) :
    before? p (r ++ c :: s) = (before? p s).map (r ++ c :: ·) := by
  have hreverse : (r ++ c :: s).reverse = s.reverse ++ c :: r.reverse := by simp
  rw [before?, before?, hreverse, after?_append_cons (by simpa using hc), Option.map_map, Option.map_map]
  congr 1
  funext t
  simp

theorem splitOnce?_eq_none_iff {c : Char} {s : List Char} : splitOnce? c s = none ↔ c ∉ s := by
  induction s with
  | nil => simp [splitOnce?]
  | cons d s ih =>
    rw [splitOnce?, List.mem_cons, not_or, ← ih]
    by_cases h : d = c
    · simp [h]
    · simp [h, Ne.symm h]

theorem splitOnce?_eq_some {c : Char} {s a b : List Char} (h : splitOnce? c s = some (a, b)) :
    s = a ++ c :: b := by
  induction s generalizing a with
  | nil => cases h
  | cons d s ih =>
    rw [splitOnce?] at h
    split at h
    · rename_i hd
      cases h
      rw [hd, List.nil_append]
    · obtain ⟨⟨a', b'⟩, hs, hab⟩ := Option.map_eq_some_iff.1 h
      cases hab
      rw [ih hs, List.cons_append]

/-! ## Splitting -/

theorem split_ne_nil (c : Char) (s : List Char) : split c s ≠ [] := by
  cases s with
  | nil => exact List.cons_ne_nil _ _
  | cons d s =>
    rw [split]
    split
    · exact List.cons_ne_nil _ _
    · split <;> exact List.cons_ne_nil _ _

theorem split_of_not_mem {c : Char} {s : List Char} (h : c ∉ s) : split c s = [s] := by
  induction s with
  | nil => rfl
  | cons d s ih =>
    rw [List.mem_cons, not_or] at h
    obtain ⟨hd, hs⟩ := h
    rw [split, if_neg (Ne.symm hd), ih hs]

/-- Pieces end at the separator. -/
theorem split_append (c : Char) (s r : List Char) : split c (s ++ c :: r) = split c s ++ split c r := by
  induction s with
  | nil => simp [split]
  | cons d s ih =>
    rw [List.cons_append, split, split]
    by_cases h : d = c
    · rw [if_pos h, if_pos h, ih, List.cons_append]
    · rw [if_neg h, if_neg h, ih]
      cases hs : split c s with
      | nil => exact absurd hs (split_ne_nil c s)
      | cons t ts => rfl

theorem not_mem_of_mem_split {c : Char} {s piece : List Char} (h : piece ∈ split c s) : c ∉ piece := by
  induction s generalizing piece with
  | nil =>
    rw [split, List.mem_singleton] at h
    subst h
    exact List.not_mem_nil
  | cons d s ih =>
    rw [split] at h
    split at h
    · rcases List.mem_cons.1 h with rfl | h
      · exact List.not_mem_nil
      · exact ih h
    · rename_i hd
      cases hs : split c s with
      | nil => exact absurd hs (split_ne_nil c s)
      | cons t ts =>
        rw [hs] at h
        rcases List.mem_cons.1 h with rfl | h
        · rintro (_ | ⟨_, hc⟩)
          · exact hd rfl
          · exact ih (hs ▸ List.mem_cons_self) hc
        · exact ih (hs ▸ List.mem_cons_of_mem _ h)

/-! ## Joining -/

theorem join_singleton (sep s : List Char) : sep.intercalate [s] = s := by
  simp [List.intercalate]

theorem join_cons_cons (sep s t : List Char) (ts : List (List Char)) :
    sep.intercalate (s :: t :: ts) = s ++ sep ++ sep.intercalate (t :: ts) := by
  simp [List.intercalate]

theorem join_cons_head (sep : List Char) (c : Char) (s : List Char) (ss : List (List Char)) :
    sep.intercalate ((c :: s) :: ss) = c :: sep.intercalate (s :: ss) := by
  cases ss <;> simp [List.intercalate]

/-! ## Identifiers -/

/-- A name of the source language. -/
def IsIdentifier (name : List Char) : Prop :=
  ∃ c s, name = c :: s ∧ isIdentifierStart c = true ∧ ∀ d ∈ s, isIdentifierPart d = true

theorem IsIdentifier.part {name : List Char} (h : IsIdentifier name) :
    ∀ c ∈ name, isIdentifierPart c = true := by
  obtain ⟨c, s, rfl, hc, hs⟩ := h
  exact List.forall_mem_cons.2 ⟨by simp [isIdentifierPart, hc], hs⟩

/-- The codes of the blank characters. -/
def blankCodes : List Nat :=
  [9, 10, 11, 12, 13, 0x20, 0x85, 0xA0, 0x1680, 0x2000, 0x2001, 0x2002, 0x2003, 0x2004, 0x2005, 0x2006,
   0x2007, 0x2008, 0x2009, 0x200A, 0x2028, 0x2029, 0x202F, 0x205F, 0x3000]

theorem toNat_mem_blankCodes {c : Char} (h : isBlank c = true) : c.toNat ∈ blankCodes := by
  simp only [isBlank, Bool.or_eq_true, Bool.and_eq_true, decide_eq_true_eq, beq_iff_eq] at h
  simp only [blankCodes, List.mem_cons, List.not_mem_nil, or_false]
  omega

theorem isIdentifierPart_blankCodes : ∀ n ∈ blankCodes, isIdentifierPart (Char.ofNat n) = false := by
  decide +kernel

theorem isBlank_of_isIdentifierPart {c : Char} (h : isIdentifierPart c = true) : isBlank c = false := by
  by_contra hblank
  have hnot := isIdentifierPart_blankCodes c.toNat (toNat_mem_blankCodes (by simpa using hblank))
  rw [Char.ofNat_toNat, h] at hnot
  cases hnot

end Registrar.Text
