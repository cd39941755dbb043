import Registrar.Proofs.Quoting
/-!
# Scans of a text and of its segments

Segments are searched by scans of their own, that start again behind each separator and after trimming.
`OccursAt` counts an occurrence by the scan of the whole text. A scan that starts where the one of the
whole text stands outside quotations sees the same occurrences (`occursAt_append_right`), and segments
start at such places, so that a search in a trimmed segment finds what the scan of the whole text
would find there (`split?_exact`).
-/
namespace Registrar.Quoting
open Text

variable {c sep : Char} {s : List Char}

/-! ## Occurrences -/

/-- A character stands at a place outside quotations, by a scan from the start of the text. -/
def OccursAt (c : Char) (s : List Char) (i : Nat) : Prop := s[i]? = some c ∧ balanced (s.take i) = true

instance (c : Char) (s : List Char) (i : Nat) : Decidable (OccursAt c s i) :=
  inferInstanceAs (Decidable (_ ∧ _))

/-- The first place of a stretch of the text where a character occurs. -/
structure FirstIn (c : Char) (s : List Char) (start stop i : Nat) : Prop where
  within : start ≤ i ∧ i < stop
  occurs : OccursAt c s i
  first : ∀ j, start ≤ j → j < i → ¬ OccursAt c s j

theorem OccursAt.lt {i : Nat} (h : OccursAt c s i) : i < s.length := (List.getElem?_eq_some_iff.1 h.1).1

/-- What follows a place does not matter for it. -/
theorem occursAt_append_left {i : Nat} (hi : i < s.length) (b : List Char) :
    OccursAt c (s ++ b) i ↔ OccursAt c s i := by
  rw [OccursAt, OccursAt, List.getElem?_append_left hi, List.take_append_of_le_length (Nat.le_of_lt hi)]

/-- Behind a balanced text a scan may start again. -/
theorem occursAt_append_right {a : List Char} (ha : balanced a = true) (i : Nat) :
    OccursAt c (a ++ s) (a.length + i) ↔ OccursAt c s i := by
  rw [OccursAt, OccursAt, List.getElem?_append_right (Nat.le_add_right _ _), Nat.add_sub_cancel_left,
    List.take_length_add_append, balanced_append ha]

theorem free_iff : Free c s ↔ ∀ i, ¬ OccursAt c s i := by
  constructor
  · rintro h i ⟨hi, hbalanced⟩
    obtain ⟨hlt, rfl⟩ := List.getElem?_eq_some_iff.1 hi
    refine h (s.take i) (s.drop (i + 1)) ?_ (balanced_iff.1 hbalanced)
    rw [← List.drop_eq_getElem_cons hlt, List.take_append_drop]
  · rintro h a b rfl hrun
    exact h a.length ⟨by simp, by rw [List.take_left]; exact balanced_iff.2 hrun⟩

theorem firstOutside?_eq_none_iff : firstOutside? c s = none ↔ ∀ i, ¬ OccursAt c s i :=
  firstOutside?_go_eq_none_iff.trans free_iff

theorem firstOutside?_eq_some_iff {n : Nat} :
    firstOutside? c s = some n ↔ OccursAt c s n ∧ ∀ i < n, ¬ OccursAt c s i := by
  constructor
  · intro h
    obtain ⟨a, b, rfl, rfl, hfree, hbalanced⟩ := firstOutside?_spec h
    refine ⟨⟨by simp, by rwa [List.take_left]⟩, fun i hi => ?_⟩
    rw [occursAt_append_left hi]
    exact free_iff.1 hfree i
  · rintro ⟨hn, hbefore⟩
    cases h : firstOutside? c s with
    | none => exact absurd hn (firstOutside?_eq_none_iff.1 h n)
    | some m =>
      obtain ⟨a, b, rfl, rfl, hfree, hbalanced⟩ := firstOutside?_spec h
      have hm : OccursAt c (a ++ c :: b) a.length := ⟨by simp, by rwa [List.take_left]⟩
      rcases Nat.lt_trichotomy a.length n with hlt | heq | hgt
      · exact absurd hm (hbefore _ hlt)
      · rw [heq]
      · rw [occursAt_append_left hgt] at hn
        exact absurd hn (free_iff.1 hfree n)

/-! ## Trimming -/

/-- The blanks before a segment. -/
def margin (s : List Char) : List Char := s.takeWhile isBlank

theorem blank_margin (s : List Char) : Blank (margin s) := fun _ hd => List.mem_takeWhile_imp hd

theorem margin_append (s : List Char) : ∃ b, Blank b ∧ margin s ++ (trim s ++ b) = s := by
  obtain ⟨b, hb, hs⟩ := dropWhile_eq_trim_append s
  exact ⟨b, hb, by rw [margin, ← hs, List.takeWhile_append_dropWhile]⟩

theorem not_occursAt_blank (hc : isBlank c = false) {b : List Char} (hb : Blank b) (i : Nat) :
    ¬ OccursAt c b i :=
  free_iff.1 (freeFrom_blank hc hb) i

/-- Trimming a segment moves the occurrences in it. -/
theorem occursAt_trim (hc : isBlank c = false) (s : List Char) (i : Nat) :
    OccursAt c s ((margin s).length + i) ↔ OccursAt c (trim s) i := by
  obtain ⟨b, hb, hs⟩ := margin_append s
  have hmargin : balanced (margin s) = true := balanced_blank (blank_margin s)
  have hmoved := occursAt_append_right (c := c) (s := trim s ++ b) hmargin i
  rw [hs] at hmoved
  rw [hmoved]
  rcases Nat.lt_or_ge i (trim s).length with hi | hi
  · exact occursAt_append_left hi b
  · constructor
    · rintro ⟨hchar, -⟩
      rw [List.getElem?_append_right hi] at hchar
      have hblank := hb c (List.mem_of_getElem? hchar)
      rw [hc] at hblank
      cases hblank
    · intro h
      exact absurd h.lt (Nat.not_lt.2 hi)

/-- No occurrence stands in the blanks before a segment. -/
theorem margin_le_of_occursAt (hc : isBlank c = false) {i : Nat} (h : OccursAt c s i) :
    (margin s).length ≤ i := by
  by_contra hi
  obtain ⟨b, -, hs⟩ := margin_append s
  rw [← hs, occursAt_append_left (Nat.not_le.1 hi)] at h
  exact not_occursAt_blank hc (blank_margin s) i h

theorem firstOutside?_trim_eq_some_iff (hc : isBlank c = false) {n : Nat} :
    firstOutside? c (trim s) = some n ↔
      OccursAt c s ((margin s).length + n) ∧ ∀ i < (margin s).length + n, ¬ OccursAt c s i := by
  rw [firstOutside?_eq_some_iff, occursAt_trim hc]
  refine and_congr_right fun _ => ⟨fun h i hi hoccurs => ?_, fun h i hi hoccurs => ?_⟩
  · obtain ⟨k, rfl⟩ := Nat.exists_eq_add_of_le (margin_le_of_occursAt hc hoccurs)
    exact h k (by omega) ((occursAt_trim hc s k).1 hoccurs)
  · exact h _ (by omega) ((occursAt_trim hc s i).2 hoccurs)

theorem firstOutside?_trim_eq_none_iff (hc : isBlank c = false) :
    firstOutside? c (trim s) = none ↔ ∀ i, ¬ OccursAt c s i := by
  rw [firstOutside?_eq_none_iff]
  refine ⟨fun h i hoccurs => ?_, fun h i hoccurs => h _ ((occursAt_trim hc s i).2 hoccurs)⟩
  obtain ⟨k, rfl⟩ := Nat.exists_eq_add_of_le (margin_le_of_occursAt hc hoccurs)
  exact h k ((occursAt_trim hc s k).1 hoccurs)

/-! ## Segments -/

/-- The place where a segment starts that has others before it, each with its separator. -/
def startAfter : List (List Char) → Nat
  | [] => 0
  | t :: before => t.length + (startAfter before + 1)

/-- A segment starts where the scan of the whole text stands outside quotations. -/
theorem exists_around (hsep : sep ≠ '"') {before : List (List Char)}
    (hbefore : ∀ t ∈ before, balanced t = true) (u : List Char) (after : List (List Char)) :
    ∃ a b, [sep].intercalate (before ++ u :: after) = a ++ (u ++ b) ∧ a.length = startAfter before ∧
      balanced a = true := by
  induction before with
  | nil =>
    cases after with
    | nil => exact ⟨[], [], by simp, rfl, rfl⟩
    | cons v vs =>
      refine ⟨[], sep :: [sep].intercalate (v :: vs), ?_, rfl, rfl⟩
      rw [List.nil_append, join_cons_cons, List.append_assoc, List.singleton_append, List.nil_append]
  | cons t before ih =>
    obtain ⟨ht, hbefore⟩ := List.forall_mem_cons.1 hbefore
    obtain ⟨a, b, hjoin, hlength, hbalanced⟩ := ih hbefore
    have hnext : State.outside.next sep = .outside := if_neg hsep
    obtain ⟨v, vs, hvs⟩ := List.exists_cons_of_ne_nil (List.append_ne_nil_of_right_ne_nil before
      (List.cons_ne_nil u after))
    refine ⟨t ++ sep :: a, b, ?_, ?_, ?_⟩
    · rw [List.cons_append, hvs, join_cons_cons, ← hvs, hjoin]
      simp
    · rw [List.length_append, List.length_cons, hlength, startAfter]
    · rw [balanced_append ht, balanced_iff, State.run_cons, hnext, ← balanced_iff]
      exact hbalanced

section Stretch
variable {a : List Char} (ha : balanced a = true) (u b : List Char)
include ha

/-- The occurrences in a stretch behind balanced text are those of the stretch. -/
theorem occursAt_stretch {i : Nat} (hi : i < u.length) :
    OccursAt c (a ++ (u ++ b)) (a.length + i) ↔ OccursAt c u i := by
  rw [occursAt_append_right ha, occursAt_append_left hi]

theorem firstIn_stretch {i : Nat} :
    FirstIn c (a ++ (u ++ b)) a.length (a.length + u.length) (a.length + i) ↔
      OccursAt c u i ∧ ∀ j < i, ¬ OccursAt c u j := by
  constructor
  · rintro ⟨⟨-, hstop⟩, hoccurs, hbefore⟩
    have hi : i < u.length := by omega
    refine ⟨(occursAt_stretch ha u b hi).1 hoccurs, fun j hj h => ?_⟩
    exact hbefore _ (Nat.le_add_right _ j) (by omega) ((occursAt_stretch ha u b (by omega)).2 h)
  · rintro ⟨hoccurs, hbefore⟩
    refine ⟨⟨Nat.le_add_right _ i, Nat.add_lt_add_left hoccurs.lt _⟩,
      (occursAt_stretch ha u b hoccurs.lt).2 hoccurs, ?_⟩
    intro j hstart hj h
    obtain ⟨k, rfl⟩ := Nat.exists_eq_add_of_le hstart
    have hk : k < i := by omega
    exact hbefore k hk ((occursAt_stretch ha u b (Nat.lt_trans hk hoccurs.lt)).1 h)

theorem not_occursAt_stretch :
    (∀ i, a.length ≤ i → i < a.length + u.length → ¬ OccursAt c (a ++ (u ++ b)) i) ↔
      ∀ i, ¬ OccursAt c u i := by
  constructor
  · intro h i hoccurs
    exact h _ (Nat.le_add_right _ i) (Nat.add_lt_add_left hoccurs.lt _)
      ((occursAt_stretch ha u b hoccurs.lt).2 hoccurs)
  · intro h i hstart hi hoccurs
    obtain ⟨k, rfl⟩ := Nat.exists_eq_add_of_le hstart
    exact h k ((occursAt_stretch ha u b (by omega)).1 hoccurs)

end Stretch

/-- A text with an escaped quote and separators in a quotation. -/
def quotedText : List Char := "key = \"a\\\",=é\" , b=1".toList

end Registrar.Quoting
